/-
  CmlCloudManager.ControlPlane.LabBinding
  ───────────────────────────────────────
  **WHICH SESSION A LAB IS BOUND TO.**

  The link between a session and a lab record is stored twice: the session has the
  id of its record, the record the id of its active session and of the binding.
  Two commands bind, one unbinds, and a session that expires or is terminated gives
  its record up.  Each checks the ends it knows of:

    • the bind of an operator looks at the session only, and at no status,
    • the bind of the pipeline looks at the record only, and takes the run for the
      binding,
    • the unbind takes the session for the binding,
    • the archive of a session leaves its record alone.

  `exclusive_binding_iff` says for a run of these commands when the two ends agree
  all along, and that a foreign record is then refused.
-/
import CmlCloudManager.Foundation.Links
import CmlCloudManager.Foundation.Replay
import CmlCloudManager.ControlPlane.CommandEffects
import CmlCloudManager.ControlPlane.LabRecord

namespace CmlCloudManager.ControlPlane

open CmlCloudManager.Foundation
open CmlCloudManager.Pipeline

/-! ## §1. The commands. -/

/-- What else a bind reads and writes of a lab record. -/
structure LabDetails where
  allocatedPorts : Option Ports := none
  runHistory : List LabRunRecord := []
  isClean : Bool := true

/-- The database, with these fields of the lab records. -/
structure BindingStore extends Store where
  labDetails : Dict String LabDetails := Dict.empty

/-- The fields of a record. -/
def BindingStore.detailsOf (db : BindingStore) (labRecordId : String) : LabDetails :=
  (db.labDetails.get? labRecordId).getD {}

/-- `BindingRole`. -/
inductive BindingRole where
  | primary
  | secondary
  | auxiliary
  deriving DecidableEq, Repr

/-- The value of a role. -/
def BindingRole.value : BindingRole → String
  | .primary => "primary"
  | .secondary => "secondary"
  | .auxiliary => "auxiliary"

/-- The members of `BindingRole`. -/
def bindingRoles : List BindingRole := [.primary, .secondary, .auxiliary]

/-- `BindingRole(value.lower())`. -/
def BindingRole.parse (value : String) : Option BindingRole :=
  bindingRoles.find? fun r => r.value == value.toLower

/-- `BindLabToLabletCommand`. -/
structure BindLabToLabletCommand where
  labRecordId : String
  labletSessionId : String
  role : String := "primary"

/-- The answer of `BindLabToLablet`. -/
structure LabBindingCreated where
  bindingId : String
  labRecordId : String
  labletSessionId : String
  role : BindingRole
  status : String := "active"
  message : String := "Lab bound to lablet session"

/-- `Check for existing binding on this session`: the message of the conflict. -/
def existingBinding (request : BindLabToLabletCommand) (session : LabletSessionState) :
    Option String :=
  if session.labRecordId = some request.labRecordId then
    some ("Active binding already exists between LabRecord " ++ request.labRecordId
      ++ " and LabletSession " ++ request.labletSessionId)
  else
    (givenText session.labRecordId).map fun other =>
      "LabletSession " ++ request.labletSessionId ++ " is already bound to LabRecord " ++ other

/-- `BindLabToLabletCommandHandler.handle_async`. -/
def bindLabToLablet (db : BindingStore) (request : BindLabToLabletCommand) :
    OperationResult LabBindingCreated × BindingStore :=
  match db.labRecords.find request.labRecordId with
  | none => (.notFound request.labRecordId, db)
  | some lab =>
      if lab.isTerminal then
        (.badRequest ("Cannot bind lab in terminal state: " ++ lab.status.value), db)
      else
        match db.sessions.find request.labletSessionId with
        | none => (.notFound request.labletSessionId, db)
        | some session =>
            match existingBinding request session with
            | some message => (.conflict message, db)
            | none =>
                -- nobody has looked at the record's active session
                match BindingRole.parse request.role with
                | none =>
                    (.badRequest ("Invalid binding role: " ++ request.role ++ ". Valid roles: ["
                      ++ ", ".intercalate (bindingRoles.map fun r => "'" ++ r.value ++ "'")
                      ++ "]"), db)
                | some role =>
                    let details := db.detailsOf request.labRecordId
                    (.ok
                      { bindingId := request.labletSessionId
                        labRecordId := request.labRecordId
                        labletSessionId := request.labletSessionId
                        role := role },
                      { db with
                        sessions := db.sessions.save
                          { session with labRecordId := some request.labRecordId }
                        -- the session id serves as the binding id
                        labRecords := db.labRecords.save
                          (lab.bindToLablet request.labletSessionId request.labletSessionId)
                        labDetails := db.labDetails.set request.labRecordId
                          { details with isClean := false } })

/-- `UnbindLabFromLabletCommand`. -/
structure UnbindLabFromLabletCommand where
  labRecordId : String
  labletSessionId : String
  reason : Option String := none

/-- The answer of `UnbindLabFromLablet`. -/
structure LabBindingReleased where
  bindingId : String
  labRecordId : String
  labletSessionId : String
  status : String := "released"
  reason : Option String
  message : String := "Binding released"

/-- `UnbindLabFromLabletCommandHandler.handle_async`. -/
def unbindLabFromLablet (db : BindingStore) (request : UnbindLabFromLabletCommand) :
    OperationResult LabBindingReleased × BindingStore :=
  match db.labRecords.find request.labRecordId with
  | none => (.notFound request.labRecordId, db)
  | some lab =>
      match db.sessions.find request.labletSessionId with
      | none => (.notFound request.labletSessionId, db)
      | some session =>
          -- only the session's end is checked
          if session.labRecordId ≠ some request.labRecordId then
            (.notFound ("No active binding between LabRecord " ++ request.labRecordId
              ++ " and LabletSession " ++ request.labletSessionId), db)
          else
            (.ok
              { bindingId := request.labletSessionId
                labRecordId := request.labRecordId
                labletSessionId := request.labletSessionId
                reason := request.reason },
              { db with
                sessions := db.sessions.save { session with labRecordId := none }
                labRecords := db.labRecords.save (lab.unbindFromLablet request.labletSessionId) })

/-- `BindLabToSessionCommand`. -/
structure BindLabToSessionCommand where
  sessionId : String
  workerId : String := ""
  labRecordId : String
  cmlLabId : Option String := none
  cmlLabTitle : Option String := none

/-- The answer of `BindLabToSession`. -/
inductive LabSessionBinding where
  | alreadyBound (labRecordId : String) (allocatedPorts : Ports)
  | bound (labRecordId : String) (runId : NewId) (allocatedPorts : Ports)

/-- `Check if LabRecord is already bound to a DIFFERENT session`: that session. -/
def boundToOther (request : BindLabToSessionCommand) (lab : LabRecordState) : Option String :=
  (givenText lab.activeLabletSessionId).filter (· ≠ request.sessionId)

/-- `BindLabToSessionCommandHandler.handle_async`. -/
def bindLabToSession (c : Clock) (newRunId : NewId) (db : BindingStore)
    (request : BindLabToSessionCommand) : OperationResult LabSessionBinding × BindingStore :=
  match db.labRecords.find request.labRecordId with
  | none => (.notFound request.labRecordId, db)
  | some lab =>
      match db.sessions.find request.sessionId with
      | none => (.notFound request.sessionId, db)
      | some session =>
          let details := db.detailsOf request.labRecordId
          let allocatedPorts := details.allocatedPorts.getD Dict.empty
          if lab.activeLabletSessionId = some request.sessionId
              ∧ session.labRecordId = some request.labRecordId then
            (.ok (.alreadyBound request.labRecordId allocatedPorts), db)
          else
            match boundToOther request lab with
            | some other =>
                (.conflict ("Lab record " ++ request.labRecordId ++ " is already bound to session "
                  ++ other), db)
            | none =>
                let run : LabRunRecord :=
                  { runId := newRunId
                    startedAt := c.now
                    startedBy := "lablet-controller"
                    labletSessionId := some request.sessionId }
                let (_, bound) := outcome (bindLab c lab.id (some allocatedPorts) request.cmlLabId
                  request.cmlLabTitle) session
                (.ok (.bound lab.id newRunId allocatedPorts),
                  { db with
                    sessions := db.sessions.save bound
                    -- the run serves as the binding
                    labRecords := db.labRecords.save
                      (lab.bindToLablet request.sessionId newRunId.val)
                    labDetails := db.labDetails.set request.labRecordId
                      { details with
                        runHistory := LabRecord.bounded (details.runHistory ++ [run])
                        isClean := false } })

/-- The commands that bind a lab record, or leave one. -/
inductive BindingCommand where
  | bindToLablet (request : BindLabToLabletCommand)
  | unbind (request : UnbindLabFromLabletCommand)
  | bindToSession (c : Clock) (newRunId : NewId) (request : BindLabToSessionCommand)
  | expire (c : Clock) (request : ExpireLabletSessionCommand)
  | terminate (c : Clock) (request : TerminateLabletSessionCommand)
  | archive (c : Clock) (request : TransitionLabletSessionCommand)
      (toArchived : LabletSessionStatus.parse request.targetStatus = some .archived)

/-- Whether the command succeeds, and the database after it. -/
def BindingCommand.exec (db : BindingStore) : BindingCommand → Bool × BindingStore
  | .bindToLablet request =>
      ((bindLabToLablet db request).1.isSuccess, (bindLabToLablet db request).2)
  | .unbind request =>
      ((unbindLabFromLablet db request).1.isSuccess, (unbindLabFromLablet db request).2)
  | .bindToSession c newRunId request =>
      ((bindLabToSession c newRunId db request).1.isSuccess,
        (bindLabToSession c newRunId db request).2)
  | .expire c request =>
      ((expireLabletSession c db.toStore request).1.isSuccess,
        { db with toStore := (expireLabletSession c db.toStore request).2 })
  | .terminate c request =>
      ((terminateLabletSession c db.toStore request).1.isSuccess,
        { db with toStore := (terminateLabletSession c db.toStore request).2 })
  | .archive c request _ =>
      ((transitionLabletSession c db.toStore request).1.isSuccess,
        { db with toStore := (transitionLabletSession c db.toStore request).2 })

/-- The database after the command. -/
def bindingStep (db : BindingStore) (command : BindingCommand) : BindingStore :=
  (command.exec db).2

/-! ## §2. The links. -/

/-- TERMINATED, EXPIRED and ARCHIVED. -/
def endedStatuses : List LabletSessionStatus := [.terminated, .expired, .archived]

/-- The links between sessions and lab records, from both ends. -/
def linksOf (sessions : LabletSessionRepository) (labRecords : LabRecordRepository) :
    Links String String where
  uses sessionId := (sessions.find sessionId).bind fun s => givenText s.labRecordId
  ended sessionId := ∀ s, sessions.find sessionId = some s → s.status ∈ endedStatuses
  heldBy labRecordId := (labRecords.find labRecordId).bind fun lab => lab.activeLabletSessionId
  known labRecordId := (labRecords.find labRecordId).isSome

/-- The links of the database. -/
def BindingStore.links (db : BindingStore) : Links String String :=
  linksOf db.sessions db.labRecords

section Links

variable {sessions : LabletSessionRepository} {labRecords : LabRecordRepository}

/-- Saving a session writes its end. -/
theorem linksOf_saveSession (s : LabletSessionState) :
    linksOf (sessions.save s) labRecords
      = (linksOf sessions labRecords).setUser s.id (givenText s.labRecordId)
          (s.status ∈ endedStatuses) := by
  refine Links.ext_ends (fun sid => ?_) (fun sid => ?_) (fun _ => rfl) (fun _ => Iff.rfl)
  · rw [Links.setUser_uses]
    show ((sessions.save s).find sid).bind _ = _
    rw [Repository.find_save]
    split <;> rfl
  · rw [Links.setUser_ended]
    show (∀ s', (sessions.save s).find sid = some s' → s'.status ∈ endedStatuses) ↔ _
    rw [Repository.find_save]
    split
    next =>
      constructor
      · exact fun h => h s rfl
      · rintro h s' hs'
        rwa [← Option.some.inj hs']
    next => exact Iff.rfl

/-- Saving a record that is there writes its end. -/
theorem linksOf_saveLab (lab : LabRecordState) (hknown : (labRecords.find lab.id).isSome) :
    linksOf sessions (labRecords.save lab)
      = (linksOf sessions labRecords).setHolder lab.id lab.activeLabletSessionId := by
  refine Links.ext_ends (fun _ => rfl) (fun _ => Iff.rfl) (fun rid => ?_) (fun rid => ?_)
  · rw [Links.setHolder_heldBy]
    show ((labRecords.save lab).find rid).bind _ = _
    rw [Repository.find_save]
    split <;> rfl
  · show ((labRecords.save lab).find rid).isSome ↔ (labRecords.find rid).isSome
    rw [Repository.find_save]
    split
    next heq => simp only [heq, hknown, Option.isSome_some]
    next => exact Iff.rfl

/-- A record is stored under a text. -/
theorem givenText_of_found {labRecordId : String} {lab : LabRecordState}
    (hlab : labRecords.find labRecordId = some lab) :
    givenText (some labRecordId) = some labRecordId := by
  have hid : lab.id = labRecordId := Repository.id_of_find hlab
  show (if labRecordId = "" then none else some labRecordId) = some labRecordId
  rw [if_neg (hid ▸ lab.id_given)]

/-- Both ends of a bind. -/
theorem linksOf_bind {session bound : LabletSessionState} {lab held : LabRecordState}
    (hsession : sessions.find session.id = some session)
    (hlab : labRecords.find lab.id = some lab) (hid : bound.id = session.id)
    (huses : bound.labRecordId = some lab.id) (hstatus : bound.status = session.status)
    (hheldId : held.id = lab.id) (hheld : held.activeLabletSessionId = some session.id) :
    linksOf (sessions.save bound) (labRecords.save held)
      = (linksOf sessions labRecords).bind session.id lab.id := by
  have hended : (linksOf sessions labRecords).ended session.id
      = (session.status ∈ endedStatuses) := by
    refine propext ⟨fun h => h session hsession, fun h s hs => ?_⟩
    rwa [← Option.some.inj (hsession.symm.trans hs)]
  rw [linksOf_saveSession, linksOf_saveLab held (by rw [hheldId, hlab]; rfl), hid, huses, hstatus,
    hheldId, hheld, givenText_of_found hlab]
  unfold Links.bind
  rw [hended]

end Links

/-! ## §3. Binding and unbinding. -/

/-- The operator's bind goes through: the record is not terminal, and the session has none. -/
def BindAccepted (db : BindingStore) (request : BindLabToLabletCommand) : Prop :=
  ∃ lab session, db.labRecords.find request.labRecordId = some lab ∧ lab.isTerminal = false
    ∧ db.sessions.find request.labletSessionId = some session
    ∧ givenText session.labRecordId = none ∧ (BindingRole.parse request.role).isSome = true

/-- The pipeline's bind goes through: the record is active for no other session. -/
def BindToSessionAccepted (db : BindingStore) (request : BindLabToSessionCommand) : Prop :=
  ∃ lab session, db.labRecords.find request.labRecordId = some lab
    ∧ db.sessions.find request.sessionId = some session
    ∧ ¬ (lab.activeLabletSessionId = some request.sessionId
      ∧ session.labRecordId = some request.labRecordId)
    ∧ boundToOther request lab = none

/-- The session has the record that is to be unbound. -/
def UnbindAccepted (db : BindingStore) (request : UnbindLabFromLabletCommand) : Prop :=
  ∃ lab session, db.labRecords.find request.labRecordId = some lab
    ∧ db.sessions.find request.labletSessionId = some session
    ∧ session.labRecordId = some request.labRecordId

/-- What a bind does. -/
inductive BindEffect (db : BindingStore) (sessionId labRecordId : String) (accepted : Prop) :
    Bool × BindingStore → Prop where
  | refused (not : ¬ accepted) : BindEffect db sessionId labRecordId accepted (false, db)
  | alreadyBound (not : ¬ accepted) (held : db.links.heldBy labRecordId = some sessionId) :
      BindEffect db sessionId labRecordId accepted (true, db)
  | bound (goes : accepted) (known : db.links.known labRecordId) {db' : BindingStore}
      (links : db'.links = db.links.bind sessionId labRecordId) :
      BindEffect db sessionId labRecordId accepted (true, db')

section Binds

variable {db : BindingStore}

/-- A session that has no record may be given one. -/
theorem existingBinding_none {request : BindLabToLabletCommand} {lab : LabRecordState}
    {session : LabletSessionState} (hlab : db.labRecords.find request.labRecordId = some lab) :
    existingBinding request session = none ↔ givenText session.labRecordId = none := by
  unfold existingBinding
  split
  next hsame =>
    rw [hsame, givenText_of_found hlab]
    simp only [reduceCtorEq]
  next => simp only [Option.map_eq_none_iff]

theorem bindLabToLablet_effect (request : BindLabToLabletCommand) :
    BindEffect db request.labletSessionId request.labRecordId (BindAccepted db request)
      ((bindLabToLablet db request).1.isSuccess, (bindLabToLablet db request).2) := by
  unfold bindLabToLablet
  cases hlab : db.labRecords.find request.labRecordId with
  | none =>
      refine .refused ?_
      rintro ⟨lab, -, hfind, -⟩
      rw [hlab] at hfind
      cases hfind
  | some lab =>
      dsimp only
      split
      next hterminal =>
        refine .refused ?_
        rintro ⟨lab', -, hfind, hnot, -⟩
        obtain rfl := Option.some.inj (hlab.symm.trans hfind)
        rw [hnot] at hterminal
        cases hterminal
      next hterminal =>
        cases hsession : db.sessions.find request.labletSessionId with
        | none =>
            refine .refused ?_
            rintro ⟨-, session, -, -, hfind, -⟩
            rw [hsession] at hfind
            cases hfind
        | some session =>
            dsimp only
            cases hexisting : existingBinding request session with
            | some message =>
                refine .refused ?_
                rintro ⟨-, session', -, -, hfind, hnone, -⟩
                obtain rfl := Option.some.inj (hsession.symm.trans hfind)
                rw [(existingBinding_none hlab).mpr hnone] at hexisting
                cases hexisting
            | none =>
                cases hrole : BindingRole.parse request.role with
                | none =>
                    refine .refused ?_
                    rintro ⟨-, -, -, -, -, -, hsome⟩
                    rw [hrole] at hsome
                    cases hsome
                | some role =>
                    have hrid : lab.id = request.labRecordId := Repository.id_of_find hlab
                    have hsid : session.id = request.labletSessionId :=
                      Repository.id_of_find hsession
                    refine .bound ⟨lab, session, hlab, Bool.eq_false_of_not_eq_true hterminal,
                      hsession, (existingBinding_none hlab).mp hexisting, by rw [hrole]; rfl⟩
                      (by show (db.labRecords.find _).isSome = true; rw [hlab]; rfl) ?_
                    -- the ids of the request are those of the documents
                    rw [← hrid] at hlab ⊢
                    rw [← hsid] at hsession ⊢
                    exact linksOf_bind hsession hlab rfl rfl rfl rfl rfl

theorem bindLabToSession_effect (c : Clock) (newRunId : NewId)
    (request : BindLabToSessionCommand) :
    BindEffect db request.sessionId request.labRecordId (BindToSessionAccepted db request)
      ((bindLabToSession c newRunId db request).1.isSuccess,
        (bindLabToSession c newRunId db request).2) := by
  unfold bindLabToSession
  cases hlab : db.labRecords.find request.labRecordId with
  | none =>
      refine .refused ?_
      rintro ⟨lab, -, hfind, -⟩
      rw [hlab] at hfind
      cases hfind
  | some lab =>
      dsimp only
      cases hsession : db.sessions.find request.sessionId with
      | none =>
          refine .refused ?_
          rintro ⟨-, session, -, hfind, -⟩
          rw [hsession] at hfind
          cases hfind
      | some session =>
          dsimp only
          split
          next hboth =>
            -- the idempotent answer
            refine .alreadyBound ?_ ?_
            · rintro ⟨lab', session', hfind, hfind', hnot, -⟩
              obtain rfl := Option.some.inj (hlab.symm.trans hfind)
              obtain rfl := Option.some.inj (hsession.symm.trans hfind')
              exact hnot hboth
            · show (db.labRecords.find request.labRecordId).bind _ = _
              rw [hlab]
              exact hboth.1
          next hboth =>
            cases hother : boundToOther request lab with
            | some other =>
                refine .refused ?_
                rintro ⟨lab', -, hfind, -, -, hnone⟩
                obtain rfl := Option.some.inj (hlab.symm.trans hfind)
                rw [hother] at hnone
                cases hnone
            | none =>
                have hrid : lab.id = request.labRecordId := Repository.id_of_find hlab
                have hsid : session.id = request.sessionId := Repository.id_of_find hsession
                refine .bound ⟨lab, session, hlab, hsession, hboth, hother⟩
                  (by show (db.labRecords.find _).isSome = true; rw [hlab]; rfl) ?_
                rw [← hrid] at hlab ⊢
                rw [← hsid] at hsession ⊢
                exact linksOf_bind hsession hlab rfl rfl rfl rfl rfl

/-- **A bind keeps the links exclusive** iff it is refused or the two may be bound. -/
theorem BindEffect.exclusive_iff {sessionId labRecordId : String} {accepted : Prop}
    {result : Bool × BindingStore} (e : BindEffect db sessionId labRecordId accepted result)
    (h : db.links.Exclusive) :
    result.2.links.Exclusive ↔ (accepted → db.links.Bindable sessionId labRecordId) := by
  cases e with
  | refused not => exact ⟨fun _ goes => absurd goes not, fun _ => h⟩
  | alreadyBound not => exact ⟨fun _ goes => absurd goes not, fun _ => h⟩
  | bound goes known links =>
      rw [links, Links.bind_exclusive_iff h known]
      exact ⟨fun hb _ => hb, fun hb => hb goes⟩

/-- Then it is refused on a record that another live session holds. -/
theorem BindEffect.rejects {sessionId labRecordId other : String} {accepted : Prop}
    {result : Bool × BindingStore} (e : BindEffect db sessionId labRecordId accepted result)
    (h : db.links.Exclusive) (hsafe : accepted → db.links.Bindable sessionId labRecordId)
    (hheld : db.links.heldBy labRecordId = some other) (hne : other ≠ sessionId) :
    result = (false, db) := by
  cases e with
  | refused not => rfl
  | alreadyBound not held =>
      rw [held] at hheld
      exact absurd (Option.some.inj hheld).symm hne
  | bound goes known links =>
      obtain ⟨huses, hlive⟩ := h.bothEnds labRecordId other hheld
      exact absurd ((hsafe goes).unused other hne huses) hlive

end Binds

section Unbind

variable {db : BindingStore}

theorem LabRecordState.unbindFromLablet_active (lab : LabRecordState) (bindingId : String) :
    (lab.unbindFromLablet bindingId).activeLabletSessionId
      = if lab.activeBindingId = some bindingId then none else lab.activeLabletSessionId := by
  unfold LabRecordState.unbindFromLablet
  split <;> rfl

theorem LabRecordState.unbindFromLablet_id (lab : LabRecordState) (bindingId : String) :
    (lab.unbindFromLablet bindingId).id = lab.id := by
  unfold LabRecordState.unbindFromLablet
  split <;> rfl

/-- The record's end is written first, then the session's. -/
theorem unbound_exclusive_iff {session : LabletSessionState} {lab : LabRecordState}
    (hsession : db.sessions.find session.id = some session)
    (hlab : db.labRecords.find lab.id = some lab) (huses : session.labRecordId = some lab.id)
    (h : db.links.Exclusive) :
    (linksOf (db.sessions.save { session with labRecordId := none })
        (db.labRecords.save (lab.unbindFromLablet session.id))).Exclusive
      ↔ (lab.activeLabletSessionId = some session.id →
          lab.activeBindingId = some session.id) := by
  have hknown : (db.labRecords.find (lab.unbindFromLablet session.id).id).isSome := by
    rw [lab.unbindFromLablet_id, hlab]
    rfl
  have hactive : db.links.heldBy lab.id = lab.activeLabletSessionId := by
    show (db.labRecords.find lab.id).bind _ = _
    rw [hlab]
    rfl
  have hheld (r : String) :
      (linksOf db.sessions (db.labRecords.save (lab.unbindFromLablet session.id))).heldBy r
        = if r = lab.id ∧ lab.activeBindingId = some session.id then none
          else db.links.heldBy r := by
    rw [linksOf_saveLab _ hknown, Links.setHolder_heldBy, lab.unbindFromLablet_id,
      lab.unbindFromLablet_active]
    by_cases hr : r = lab.id
    · subst hr
      simp only [if_true, true_and, hactive]
    · simp only [hr, if_false, false_and]
      rfl
  -- a record that loses its session breaks nothing
  have hreleased : (linksOf db.sessions
      (db.labRecords.save (lab.unbindFromLablet session.id))).Exclusive := by
    rw [linksOf_saveLab _ hknown]
    refine h.release rfl rfl rfl fun r => ?_
    rw [← linksOf_saveLab _ hknown, hheld]
    split
    next => exact .inl rfl
    next => exact .inr rfl
  rw [linksOf_saveSession, Links.leave_exclusive_iff hreleased nofun]
  constructor
  · intro hfree hheldBy
    by_contra hbinding
    refine hfree lab.id ?_
    rw [hheld, if_neg fun hboth => hbinding hboth.2, hactive]
    exact hheldBy
  · intro hbinding r hr
    rw [hheld] at hr
    split at hr
    next => cases hr
    next hnot =>
      -- whatever is still active for the session is the record of its own end
      have hr' : r = lab.id := by
        have hends : (db.sessions.find session.id).bind (fun s => givenText s.labRecordId)
            = some r := (h.bothEnds r session.id hr).1
        rw [hsession, Option.bind_some, huses, givenText_of_found hlab] at hends
        exact (Option.some.inj hends).symm
      subst hr'
      exact hnot ⟨rfl, hbinding (hactive ▸ hr)⟩

/-- **An unbind keeps the links exclusive** iff the record it unbinds is not left to the session:
the session id must be the binding id. -/
theorem unbindLabFromLablet_exclusive_iff (request : UnbindLabFromLabletCommand)
    (h : db.links.Exclusive) :
    (unbindLabFromLablet db request).2.links.Exclusive ↔
      (UnbindAccepted db request → ∀ lab, db.labRecords.find request.labRecordId = some lab →
        lab.activeLabletSessionId = some request.labletSessionId →
        lab.activeBindingId = some request.labletSessionId) := by
  unfold unbindLabFromLablet
  cases hlab : db.labRecords.find request.labRecordId with
  | none =>
      refine ⟨fun _ goes lab hfind => ?_, fun _ => h⟩
      cases hfind
  | some lab =>
      dsimp only
      cases hsession : db.sessions.find request.labletSessionId with
      | none =>
          refine ⟨fun _ goes => ?_, fun _ => h⟩
          obtain ⟨-, session, -, hfind, -⟩ := goes
          rw [hsession] at hfind
          cases hfind
      | some session =>
          dsimp only
          split
          next hother =>
            refine ⟨fun _ goes => ?_, fun _ => h⟩
            obtain ⟨-, session', -, hfind, huses⟩ := goes
            obtain rfl := Option.some.inj (hsession.symm.trans hfind)
            exact absurd huses hother
          next hsame =>
            -- the session uses the lab: the command writes both
            have huses : session.labRecordId = some request.labRecordId := not_not.mp hsame
            have hrid : lab.id = request.labRecordId := Repository.id_of_find hlab
            have hsid : session.id = request.labletSessionId := Repository.id_of_find hsession
            have hgoes : UnbindAccepted db request := ⟨lab, session, hlab, hsession, huses⟩
            rw [← hrid] at hlab huses
            rw [← hsid] at hsession ⊢
            refine (unbound_exclusive_iff hsession hlab huses h).trans ?_
            constructor
            · intro hbinding _ lab' hlab'
              obtain rfl := Option.some.inj hlab'
              exact hbinding
            · exact fun hbinding => hbinding hgoes lab rfl

end Unbind

/-! ## §4. Sessions that end. -/

section Ends

variable {sessions : LabletSessionRepository} {labRecords : LabRecordRepository}

/-- Asking for a wipe leaves the links alone. -/
theorem linksOf_queueWipe (labRecordId : String) :
    linksOf sessions (queueWipe labRecords labRecordId).2 = linksOf sessions labRecords := by
  unfold queueWipe wipeLabRecord
  cases hlab : labRecords.find labRecordId with
  | none => rfl
  | some lab =>
      dsimp only
      split
      next hidle =>
        rw [hidle.2]
        dsimp only
        split
        next => rfl
        next =>
          have hid : lab.id = labRecordId := Repository.id_of_find hlab
          refine (linksOf_saveLab lab.requestWipe ?_).trans ?_
          · show (labRecords.find lab.id).isSome = true
            rw [hid, hlab]
            rfl
          · refine Links.ext_ends (fun _ => rfl) (fun _ => Iff.rfl) (fun r => ?_) fun _ => Iff.rfl
            rw [Links.setHolder_heldBy]
            split
            next heq =>
              show lab.activeLabletSessionId = (labRecords.find r).bind _
              rw [heq, show lab.requestWipe.id = labRecordId from hid, hlab]
              rfl
            next => rfl
      next => rfl

/-- The record of a session is unbound if it is active for the session. -/
theorem linksOf_unbindLabRecord {session : LabletSessionState} {labRecordId : String}
    (hsession : sessions.find session.id = some session)
    (huses : givenText session.labRecordId = some labRecordId) :
    linksOf sessions (unbindLabRecord labRecords labRecordId session.id).2
      = (linksOf sessions labRecords).unlink session.id := by
  have hends : (linksOf sessions labRecords).uses session.id = some labRecordId := by
    show (sessions.find session.id).bind _ = _
    rw [hsession]
    exact huses
  have hunlink (r : String) : ((linksOf sessions labRecords).unlink session.id).heldBy r
      = if r = labRecordId ∧ (linksOf sessions labRecords).heldBy r = some session.id then none
        else (linksOf sessions labRecords).heldBy r := by
    show (if _ then _ else _) = _
    simp only [hends, Option.some.injEq, @eq_comm _ labRecordId r]
  unfold unbindLabRecord
  cases hlab : labRecords.find labRecordId with
  | none =>
      -- a record that is gone is active for nobody
      refine Links.ext_ends (fun _ => rfl) (fun _ => Iff.rfl) (fun r => ?_) fun _ => Iff.rfl
      have hnone : (linksOf sessions labRecords).heldBy labRecordId = none := by
        show (labRecords.find labRecordId).bind _ = none
        rw [hlab]
        rfl
      rw [hunlink, if_neg]
      rintro ⟨rfl, hr⟩
      rw [hnone] at hr
      cases hr
  | some lab =>
      have hid : lab.id = labRecordId := Repository.id_of_find hlab
      have hactive : (linksOf sessions labRecords).heldBy labRecordId
          = lab.activeLabletSessionId := by
        show (labRecords.find labRecordId).bind _ = _
        rw [hlab]
        rfl
      dsimp only
      split
      next hheld =>
        -- the binding that is cleared is the record's own
        have hbinding : lab.activeBindingId = some (lab.activeBindingId.getD "") := by
          have hsome := lab.binding (by rw [hheld]; rfl)
          obtain ⟨binding, hb⟩ := Option.isSome_iff_exists.mp hsome
          rw [hb]
          rfl
        refine (linksOf_saveLab _ ?_).trans ?_
        · rw [lab.unbindFromLablet_id, hid, hlab]
          rfl
        · refine Links.ext_ends (fun _ => rfl) (fun _ => Iff.rfl) (fun r => ?_) fun _ => Iff.rfl
          rw [Links.setHolder_heldBy, hunlink, lab.unbindFromLablet_id, hid,
            lab.unbindFromLablet_active, if_pos hbinding]
          by_cases hr : r = labRecordId
          · rw [if_pos hr, if_pos ⟨hr, by rw [hr, hactive, hheld]⟩]
          · rw [if_neg hr, if_neg fun hboth => hr hboth.1]
      next hheld =>
        -- the record is active for another session, and stays so
        refine Links.ext_ends (fun _ => rfl) (fun _ => Iff.rfl) (fun r => ?_) fun _ => Iff.rfl
        rw [hunlink, if_neg]
        rintro ⟨rfl, hr⟩
        rw [hactive] at hr
        exact hheld hr

/-- **The clean-up of a session** clears the other end of its link. -/
theorem linksOf_cleanUp {session : LabletSessionState}
    (hsession : sessions.find session.id = some session) :
    linksOf sessions (cleanUpLabRecord labRecords session.labRecordId session.id).2.2
      = (linksOf sessions labRecords).unlink session.id := by
  unfold cleanUpLabRecord
  cases huses : givenText session.labRecordId with
  | none =>
      have hends : (linksOf sessions labRecords).uses session.id = none := by
        show (sessions.find session.id).bind _ = _
        rw [hsession]
        exact huses
      refine Links.ext_ends (fun _ => rfl) (fun _ => Iff.rfl) (fun r => ?_) fun _ => Iff.rfl
      show _ = if _ then _ else _
      rw [hends, if_neg fun hboth => nomatch hboth.1]
  | some labRecordId =>
      exact (linksOf_queueWipe labRecordId).trans (linksOf_unbindLabRecord hsession huses)

/-- A session that moves to its end. -/
theorem linksOf_ended {session session' : LabletSessionState} {dst : LabletSessionStatus}
    (hsession : sessions.find session.id = some session) (hmoved : Moved session session' dst) :
    linksOf (sessions.save session') labRecords
      = (linksOf sessions labRecords).setUser session.id
          ((linksOf sessions labRecords).uses session.id) (dst ∈ endedStatuses) := by
  rw [linksOf_saveSession, hmoved.id, hmoved.labRecordId, hmoved.status]
  refine congrArg (fun o => Links.setUser _ _ o _) ?_
  show _ = (sessions.find session.id).bind _
  rw [hsession]
  rfl

/-- A session that ends keeps the links exclusive iff no record is active for it. -/
theorem ended_exclusive_iff {session session' : LabletSessionState} {dst : LabletSessionStatus}
    (hsession : sessions.find session.id = some session) (hmoved : Moved session session' dst)
    (hdst : dst ∈ endedStatuses) (h : (linksOf sessions labRecords).Exclusive) :
    (linksOf (sessions.save session') labRecords).Exclusive
      ↔ (linksOf sessions labRecords).Free session.id := by
  rw [linksOf_ended hsession hmoved]
  exact Links.leave_exclusive_iff h fun _ _ => hdst

/-- **A session that gives its record up and ends** keeps the links exclusive. -/
theorem cleanedUp_exclusive {session session' : LabletSessionState} {dst : LabletSessionStatus}
    (hsession : sessions.find session.id = some session) (hmoved : Moved session session' dst)
    (hdst : dst ∈ endedStatuses) (h : (linksOf sessions labRecords).Exclusive) :
    (linksOf (sessions.save session')
      (cleanUpLabRecord labRecords session.labRecordId session.id).2.2).Exclusive := by
  rw [linksOf_ended hsession hmoved, linksOf_cleanUp hsession]
  exact (Links.leave_exclusive_iff (h.unlink session.id) fun _ _ => hdst).mpr
    (h.unlink_free session.id)

end Ends

section Ending

variable {db : BindingStore} {c : Clock}

theorem expire_exclusive (request : ExpireLabletSessionCommand) (h : db.links.Exclusive) :
    (linksOf (expireLabletSession c db.toStore request).2.sessions
      (expireLabletSession c db.toStore request).2.labRecords).Exclusive := by
  unfold expireLabletSession
  cases hsession : db.sessions.find request.sessionId with
  | none => exact h
  | some session =>
      have hid : session.id = request.sessionId := Repository.id_of_find hsession
      dsimp only
      split
      next => exact h
      next =>
        rcases movesTo_expire (c := c) request.reason session with
          ⟨s', hok, hmoved⟩ | ⟨e, s', herror, -⟩
        · simp only [hok]
          rw [← hid] at hsession
          rw [hmoved.labRecordId, ← hid]
          exact cleanedUp_exclusive hsession hmoved (by decide) h
        · simp only [herror]
          exact h

theorem terminate_exclusive (request : TerminateLabletSessionCommand) (h : db.links.Exclusive) :
    (linksOf (terminateLabletSession c db.toStore request).2.sessions
      (terminateLabletSession c db.toStore request).2.labRecords).Exclusive := by
  unfold terminateLabletSession
  split
  next => exact h
  next =>
    split
    next => exact h
    next =>
      cases hsession : db.sessions.find (strip request.sessionId) with
      | none => exact h
      | some session =>
          have hid : session.id = strip request.sessionId := Repository.id_of_find hsession
          dsimp only
          split
          next => exact h
          next =>
            split
            next => exact h
            next =>
              rcases movesTo_terminateOperation (c := c) (strip request.terminatedBy)
                request.reason session with ⟨s', hok, hmoved⟩ | ⟨e, s', herror, -⟩
              · simp only [hok]
                rw [← hid] at hsession
                rw [hmoved.labRecordId, hmoved.id]
                exact cleanedUp_exclusive hsession hmoved (by decide) h
              · simp only [herror]
                exact h

/-- **An archive keeps the links exclusive** iff no record is active for the session. -/
theorem archive_exclusive_iff (request : TransitionLabletSessionCommand)
    (toArchived : LabletSessionStatus.parse request.targetStatus = some .archived)
    (h : db.links.Exclusive) :
    (linksOf (transitionLabletSession c db.toStore request).2.sessions
        (transitionLabletSession c db.toStore request).2.labRecords).Exclusive
      ↔ (db.movable request.sessionId .archived = some request.sessionId →
          db.links.Free request.sessionId) := by
  unfold transitionLabletSession
  cases hsession : db.sessions.find request.sessionId with
  | none =>
      rw [movable_none hsession]
      exact ⟨fun _ => nofun, fun _ => h⟩
  | some session =>
      have hid : session.id = request.sessionId := Repository.id_of_find hsession
      rw [movable_of_find hsession, toArchived]
      rcases (@movesTo_transitionOperation c .archived request.reason _ rfl).1 session
        with ⟨s', hok, hmoved⟩ | ⟨e, s', herror, hnot⟩
      · rw [if_pos hmoved.allowed]
        rw [← hid] at hsession
        have hiff := ended_exclusive_iff hsession hmoved (by decide) h
        rw [hid] at hiff
        simp only [transitionOperation, hok]
        exact hiff.trans ⟨fun hfree _ => hfree, fun hfree => hfree trivial⟩
      · rw [if_neg hnot]
        simp only [transitionOperation, herror]
        exact ⟨fun _ => nofun, fun _ => h⟩

end Ending

/-! ## §5. Runs. -/

/-- The state before a command that lets it keep the links exclusive: what is bound may be bound,
what is unbound was bound by the same id, and a session that is archived has no record. -/
def BindingCommand.Safe (db : BindingStore) : BindingCommand → Prop
  | .bindToLablet request =>
      BindAccepted db request → db.links.Bindable request.labletSessionId request.labRecordId
  | .bindToSession _ _ request =>
      BindToSessionAccepted db request → db.links.Bindable request.sessionId request.labRecordId
  | .unbind request =>
      UnbindAccepted db request → ∀ lab, db.labRecords.find request.labRecordId = some lab →
        lab.activeLabletSessionId = some request.labletSessionId →
        lab.activeBindingId = some request.labletSessionId
  | .expire _ _ => True
  | .terminate _ _ => True
  | .archive _ request _ =>
      db.movable request.sessionId .archived = some request.sessionId →
        db.links.Free request.sessionId

/-- The session and the record that a command binds. -/
def BindingCommand.binds : BindingCommand → Option (String × String)
  | .bindToLablet request => some (request.labletSessionId, request.labRecordId)
  | .bindToSession _ _ request => some (request.sessionId, request.labRecordId)
  | _ => none

/-- A bind onto a record that is active for another live session fails and writes nothing. -/
def BindingCommand.RejectsForeign (db : BindingStore) (command : BindingCommand) : Prop :=
  ∀ sessionId labRecordId, command.binds = some (sessionId, labRecordId) →
    ∀ other, db.links.heldBy labRecordId = some other → other ≠ sessionId →
      ¬ db.links.ended other → command.exec db = (false, db)

section Runs

variable {db : BindingStore}

/-- **One command.** -/
theorem bindingStep_exclusive_iff (command : BindingCommand) (h : db.links.Exclusive) :
    (bindingStep db command).links.Exclusive ↔ command.Safe db := by
  cases command with
  | bindToLablet request => exact (bindLabToLablet_effect request).exclusive_iff h
  | bindToSession c newRunId request =>
      exact (bindLabToSession_effect c newRunId request).exclusive_iff h
  | unbind request => exact unbindLabFromLablet_exclusive_iff request h
  | expire c request =>
      have hkept := @expire_exclusive db c request h
      exact iff_of_true hkept trivial
  | terminate c request =>
      have hkept := @terminate_exclusive db c request h
      exact iff_of_true hkept trivial
  | archive c request toArchived => exact archive_exclusive_iff request toArchived h

theorem rejectsForeign_of_safe {command : BindingCommand} (h : db.links.Exclusive)
    (hsafe : command.Safe db) : command.RejectsForeign db := by
  intro sessionId labRecordId hbinds other hheld hne _
  cases command with
  | bindToLablet request =>
      obtain ⟨rfl, rfl⟩ := Prod.mk.inj (Option.some.inj hbinds)
      exact (bindLabToLablet_effect request).rejects h hsafe hheld hne
  | bindToSession c newRunId request =>
      obtain ⟨rfl, rfl⟩ := Prod.mk.inj (Option.some.inj hbinds)
      exact (bindLabToSession_effect c newRunId request).rejects h hsafe hheld hne
  | unbind request => cases hbinds
  | expire c request => cases hbinds
  | terminate c request => cases hbinds
  | archive c request toArchived => cases hbinds

end Runs

/-- **Every run of these commands**: the links are exclusive in every state, and a bind onto a
record of another live session is refused, iff the links are exclusive at the start and every
command is safe where it runs. -/
theorem exclusive_binding_iff (db : BindingStore) (commands : List BindingCommand) :
    ((∀ before, before <+: commands → (replay bindingStep db before).links.Exclusive)
        ∧ ∀ before command after, commands = before ++ command :: after →
          command.RejectsForeign (replay bindingStep db before))
      ↔ db.links.Exclusive
        ∧ Meets bindingStep (fun db command => command.Safe db) db commands := by
  -- along a run, one command at a time
  have hruns (h : db.links.Exclusive) :=
    @always_iff_meets _ _ bindingStep (fun db command => command.Safe db) (fun _ => True)
      (fun db => db.links.Exclusive) (fun _ _ _ => trivial)
      (fun _ command _ hgood => bindingStep_exclusive_iff command hgood) commands db trivial h
  constructor
  · rintro ⟨halways, -⟩
    have hstart := halways [] List.nil_prefix
    exact ⟨hstart, (hruns hstart).mp halways⟩
  · rintro ⟨hstart, hsafe⟩
    have halways := (hruns hstart).mpr hsafe
    refine ⟨halways, fun before command after hsplit => ?_⟩
    exact rejectsForeign_of_safe (halways before ⟨_, hsplit.symm⟩)
      ((meets_iff commands db).mp hsafe before command after hsplit)

/-- A pending session without a record. -/
def unboundSession (id : String) : LabletSessionState where
  id := id
  createdAt := 0
  updatedAt := 0

/-- A record without a session. -/
def unboundLab : LabRecordState where
  id := "lab-record-1"
  id_given := labRecord1_given

/-- Two sessions and one record. -/
def unboundStore : BindingStore where
  sessions := (Repository.empty.save (unboundSession "session-1")).save (unboundSession "session-2")
  labRecords := Repository.empty.save unboundLab

theorem unboundStore_exclusive : unboundStore.links.Exclusive := by
  constructor
  · intro r s hs
    change ((Repository.empty.save unboundLab).find r).bind _ = some s at hs
    rw [Repository.find_save] at hs
    split at hs
    next => cases hs
    next => cases hs
  · intro r _ s s' hs
    change ((Repository.save _ _).find s).bind _ = some r at hs
    rw [Repository.find_save, Repository.find_save] at hs
    split at hs
    next => cases hs
    next =>
      split at hs
      next => cases hs
      next => cases hs

/-- A pending session with a record is a live user of it. -/
theorem pending_uses {db : BindingStore} {sessionId labRecordId : String}
    (h : (db.sessions.find sessionId).map (fun s => (givenText s.labRecordId, s.status))
      = some (some labRecordId, .pending)) :
    db.links.uses sessionId = some labRecordId ∧ ¬ db.links.ended sessionId := by
  obtain ⟨s, hs, hends⟩ := Option.map_eq_some_iff.mp h
  obtain ⟨huses, hstatus⟩ := Prod.mk.inj hends
  constructor
  · show (db.sessions.find sessionId).bind _ = _
    rw [hs]
    exact huses
  · intro hended
    have hmem := hended s hs
    rw [hstatus] at hmem
    exact absurd hmem (by decide)

/-- Both sessions bind the record. -/
def bindTwice : List BindingCommand :=
  [.bindToLablet ⟨"lab-record-1", "session-1", "primary"⟩,
    .bindToLablet ⟨"lab-record-1", "session-2", "primary"⟩]

/-- **Two sessions can be bound to one record.** -/
theorem record_bound_twice :
    ¬ ∀ (db : BindingStore) (commands : List BindingCommand), db.links.Exclusive →
        (replay bindingStep db commands).links.Exclusive := by
  intro h
  have hexclusive := h unboundStore bindTwice unboundStore_exclusive
  have hknown : ((replay bindingStep unboundStore bindTwice).labRecords.find
      "lab-record-1").isSome = true := by
    decide +kernel
  obtain ⟨huses₁, hlive₁⟩ :=
    @pending_uses (replay bindingStep unboundStore bindTwice) "session-1" "lab-record-1"
      (by decide +kernel)
  obtain ⟨huses₂, hlive₂⟩ :=
    @pending_uses (replay bindingStep unboundStore bindTwice) "session-2" "lab-record-1"
      (by decide +kernel)
  have hsame := hexclusive.unique _ hknown _ _ huses₁ hlive₁ huses₂ hlive₂
  exact absurd hsame (by decide)

end CmlCloudManager.ControlPlane
