/-
  CmlCloudManager.Controller.DeviceAccess
  ───────────────────────────────────────
  **THE DEVICES A CANDIDATE CAN REACH.**

  The devices of a session are provisioned either from the ports that were allocated
  to it, whose names say which node and which protocol they are for, or from the tags
  of the nodes as CML has them.

  The label of a device is read back from the name of its port.  That is the label of
  the node only if the label was fit to stand in a name, and nodes whose labels are
  written alike there are one device (`device_access_iff`).

  From the tags a node with several of them gets one device for each, its label
  followed by the protocol, which may make two labels the same (`access_list_iff`).
-/
import CmlCloudManager.ControlPlane.PortNames
import CmlCloudManager.Foundation.Ranking
import Mathlib.Data.List.Pairwise

namespace CmlCloudManager.Controller.DeviceAccess

open CmlCloudManager.Foundation
open CmlCloudManager.ControlPlane

/-! ## §1. Devices from allocated ports. -/

/-- `DeviceAccessInfo`. -/
structure DeviceAccessInfo where
  deviceLabel : String
  protocol : String
  host : String
  port : Option Int := none
  password : Option String := none
  deriving DecidableEq

/-- `DEFAULT_PROTOCOL_PRIORITY`. -/
def defaultProtocolPriority : List String :=
  ["vnc", "http", "https", "rdp", "ssh", "serial", "telnet"]

/-- The priority in force: the given one, unless there is none in it. -/
def priorityInForce : Option (List String) → List String
  | none => defaultProtocolPriority
  | some [] => defaultProtocolPriority
  | some (protocol :: rest) => protocol :: rest

/-- Whether a label is one of the given; without any given, all are. -/
def isVisible (userVisibleLabels : Option (List String)) (label : String) : Bool :=
  match userVisibleLabels with
  | none => true
  | some labels => decide (label ∈ labels)

/-- The label, the protocol and the port of an allocated port that is not skipped. -/
def candidate (userVisibleLabels : Option (List String)) (entry : String × Int) :
    Option (String × String × Int) :=
  match rsplit entry.1 with
  | none => none
  | some (nodeLabel, protocol) =>
      if isVisible userVisibleLabels nodeLabel then some (nodeLabel, protocol, entry.2) else none

/-- The first pass: the candidates by device label. -/
def candidates (userVisibleLabels : Option (List String)) (allocatedPorts : Ports) :
    Dict String (List (String × Int)) :=
  Dict.group (allocatedPorts.entries.filterMap (candidate userVisibleLabels))

/-- One turn of the search for the best entry. -/
def better (priority : List String) (best : Nat × String × Int) (entry : String × Int) :
    Nat × String × Int :=
  -- an unknown protocol has the length of the list for its index
  let idx := priority.idxOf entry.1
  if idx < best.1 then (idx, entry) else best

/-- `_select_by_priority`, of a list that is not empty. -/
def selectByPriority (first : String × Int) (rest : List (String × Int)) (priority : List String) :
    String × Int :=
  ((first :: rest).foldl (better priority) (priority.length, first)).2

/-- The protocol of the preferred port of a device. -/
def preferredProtocol (portPreferences : Option (Dict String String)) (nodeLabel : String) :
    Option String :=
  match (portPreferences.getD Dict.empty).get? nodeLabel with
  | none => none
  | some preferredPortName => (rsplit preferredPortName).map Prod.snd

/-- The port that is taken of those of a device. -/
def resolveConflict (priority : List String) (preferred : Option String) :
    List (String × Int) → Option (String × Int)
  | [] => none
  | [entry] => some entry
  | first :: rest =>
      match (first :: rest).find? fun entry => decide (some entry.1 = preferred) with
      | some found => some found
      | none => some (selectByPriority first rest priority)

/-- `build_device_access_from_allocated_ports`. -/
def buildDeviceAccessFromAllocatedPorts (allocatedPorts : Ports) (workerIp : String)
    (userVisibleLabels protocolPriority : Option (List String))
    (portPreferences : Option (Dict String String)) : List DeviceAccessInfo :=
  (candidates userVisibleLabels allocatedPorts).entries.filterMap fun (nodeLabel, portList) =>
    (resolveConflict (priorityInForce protocolPriority)
        (preferredProtocol portPreferences nodeLabel) portList).map fun (protocol, portNumber) =>
      { deviceLabel := nodeLabel, protocol := protocol, host := workerIp, port := some portNumber }

/-! ## §2. Which port is taken. -/

theorem snd_foldl_better (priority : List String) :
    ∀ (rest : List (String × Int)) (entry : String × Int),
      (rest.foldl (better priority) (priority.idxOf entry.1, entry)).2
        = rest.foldl (fun greatest x =>
            if OrderDual.toDual (priority.idxOf greatest.1) < OrderDual.toDual (priority.idxOf x.1)
            then x else greatest) entry
  | [], _ => rfl
  | x :: rest, entry => by
      rw [List.foldl_cons, List.foldl_cons, better]
      dsimp only
      by_cases h : priority.idxOf x.1 < priority.idxOf entry.1
      · rw [if_pos h, if_pos (OrderDual.toDual_lt_toDual.mpr h)]
        exact snd_foldl_better priority rest x
      · rw [if_neg h, if_neg fun hlt => h (OrderDual.toDual_lt_toDual.mp hlt)]
        exact snd_foldl_better priority rest entry

/-- The selected entry is the first of those with the least index. -/
theorem selectByPriority_isFirstMax (first : String × Int) (rest : List (String × Int))
    (priority : List String) :
    IsFirstMax (fun entry : String × Int => OrderDual.toDual (priority.idxOf entry.1))
      (first :: rest) (selectByPriority first rest priority) := by
  have hfirst : better priority (priority.length, first) first
      = (priority.idxOf first.1, first) := by
    unfold better
    dsimp only
    split
    next => rfl
    next h =>
      rw [Nat.le_antisymm List.idxOf_le_length (Nat.le_of_not_lt h)]
  unfold selectByPriority
  rw [List.foldl_cons, hfirst, snd_foldl_better]
  exact isFirstMax_firstMax _ first rest

/-- A protocol is taken before another one: it is the preferred one; or the other is
not, and its index in the priority list is less; or neither is in the list, and its port
is listed first. -/
def Outranks (priority : List String) (preferred : Option String) (portNames : List String)
    (nodeLabel p q : String) : Prop :=
  preferred = some p
    ∨ preferred ≠ some q
      ∧ (priority.idxOf p < priority.idxOf q
        ∨ priority.idxOf p = priority.idxOf q
          ∧ [portName nodeLabel p, portName nodeLabel q].Sublist portNames)

/-- The port that is taken is one of the list, and is taken before every other. -/
theorem resolveConflict_best {priority : List String} {preferred : Option String}
    {portList : List (String × Int)} {taken : String × Int}
    (h : resolveConflict priority preferred portList = some taken) :
    taken ∈ portList ∧ ∀ entry ∈ portList, entry.1 ≠ taken.1 →
      preferred = some taken.1
        ∨ preferred ≠ some entry.1
          ∧ (priority.idxOf taken.1 < priority.idxOf entry.1
            ∨ priority.idxOf taken.1 = priority.idxOf entry.1
              ∧ [taken, entry].Sublist portList) := by
  unfold resolveConflict at h
  split at h
  next => cases h
  next only =>
    cases h
    refine ⟨List.mem_singleton_self _, fun entry hentry hne => absurd ?_ hne⟩
    rw [List.mem_singleton.mp hentry]
  next first rest _ =>
    split at h
    next found hfound =>
      cases h
      refine ⟨List.mem_of_find?_eq_some hfound, fun _ _ _ => .inl ?_⟩
      have hpreferred := List.find?_some hfound
      exact (of_decide_eq_true hpreferred).symm
    next hnone =>
      cases h
      have hbest := selectByPriority_isFirstMax first rest priority
      refine ⟨hbest.mem, fun entry hentry hne => .inr ⟨fun hpreferred => ?_, ?_⟩⟩
      · exact List.find?_eq_none.mp hnone entry hentry (decide_eq_true hpreferred.symm)
      · obtain ⟨before, after, hsplit, hbefore, hafter⟩ := hbest
        rw [hsplit] at hentry ⊢
        rcases List.mem_append.mp hentry with hmem | hmem
        · exact .inl (OrderDual.toDual_lt_toDual.mp (hbefore entry hmem))
        · rcases List.mem_cons.mp hmem with rfl | hmem
          · exact absurd rfl hne
          · rcases (OrderDual.toDual_le_toDual.mp (hafter entry hmem)).lt_or_eq with hlt | heq
            · exact .inl hlt
            · refine .inr ⟨heq, List.Sublist.trans ?_ (List.sublist_append_right before _)⟩
              exact (List.singleton_sublist.mpr hmem).cons_cons _

theorem resolveConflict_isSome (priority : List String) (preferred : Option String)
    {portList : List (String × Int)} (h : portList ≠ []) :
    ∃ taken, resolveConflict priority preferred portList = some taken := by
  unfold resolveConflict
  split
  next => exact absurd rfl h
  next only => exact ⟨only, rfl⟩
  next first rest _ =>
    split
    next found _ => exact ⟨found, rfl⟩
    next => exact ⟨_, rfl⟩

/-! ## §3. What is found for a label. -/

/-- The candidates with a device label. -/
def candidatesOf (userVisibleLabels : Option (List String)) (allocatedPorts : Ports)
    (nodeLabel : String) : List (String × Int) :=
  Dict.valuesOf nodeLabel (allocatedPorts.entries.filterMap (candidate userVisibleLabels))

theorem candidate_eq_some_iff {userVisibleLabels : Option (List String)} {entry : String × Int}
    {nodeLabel protocol : String} {port : Int} :
    candidate userVisibleLabels entry = some (nodeLabel, protocol, port)
      ↔ rsplit entry.1 = some (nodeLabel, protocol)
        ∧ isVisible userVisibleLabels nodeLabel = true ∧ entry.2 = port := by
  unfold candidate
  constructor
  · intro h
    split at h
    next => cases h
    next hparts =>
      split at h
      next hvisible =>
        cases h
        exact ⟨hparts, hvisible, rfl⟩
      next => cases h
  · rintro ⟨hparts, hvisible, rfl⟩
    rw [hparts]
    exact if_pos hvisible

section Lookup

variable {userVisibleLabels : Option (List String)} {allocatedPorts : Ports} {nodeLabel : String}

theorem mem_candidatesOf {protocol : String} {port : Int} :
    (protocol, port) ∈ candidatesOf userVisibleLabels allocatedPorts nodeLabel
      ↔ isVisible userVisibleLabels nodeLabel = true
        ∧ ∃ name, rsplit name = some (nodeLabel, protocol)
          ∧ allocatedPorts.get? name = some port := by
  unfold candidatesOf
  rw [Dict.mem_valuesOf, List.mem_filterMap]
  constructor
  · rintro ⟨⟨name, port'⟩, hentry, heq⟩
    obtain ⟨hparts, hvisible, rfl⟩ := candidate_eq_some_iff.mp heq
    exact ⟨hvisible, name, hparts, (Dict.get?_eq_some_iff _ _ _).mpr hentry⟩
  · rintro ⟨hvisible, name, hparts, hport⟩
    exact ⟨(name, port), (Dict.get?_eq_some_iff _ _ _).mp hport,
      candidate_eq_some_iff.mpr ⟨hparts, hvisible, rfl⟩⟩

theorem pair_sublist_of_filterMap {α β : Type} {f : α → Option β} {l : List α} {x y : β}
    (h : [x, y].Sublist (l.filterMap f)) :
    ∃ a b, [a, b].Sublist l ∧ f a = some x ∧ f b = some y := by
  obtain ⟨l', hl', heq⟩ := List.sublist_filterMap_iff.mp h
  obtain ⟨front, a, rest, rfl, -, ha, hrest⟩ := List.filterMap_eq_cons_iff.mp heq.symm
  obtain ⟨between, b, back, rfl, -, hb, -⟩ := List.filterMap_eq_cons_iff.mp hrest
  refine ⟨a, b, List.Sublist.trans ?_ hl', ha, hb⟩
  refine List.Sublist.trans ?_ (List.sublist_append_right front _)
  refine List.Sublist.cons_cons a (List.Sublist.trans ?_ (List.sublist_append_right between _))
  exact List.singleton_sublist.mpr List.mem_cons_self

/-- Candidates that stand one after the other are listed so. -/
theorem listed_of_candidates {p q : String} {port port' : Int}
    (h : [(p, port), (q, port')].Sublist
      (candidatesOf userVisibleLabels allocatedPorts nodeLabel)) :
    [nodeLabel ++ "_" ++ p, nodeLabel ++ "_" ++ q].Sublist allocatedPorts.keys := by
  obtain ⟨a, b, hpair, ha, hb⟩ := pair_sublist_of_filterMap h
  obtain ⟨entry, entry', hlisted, hentry, hentry'⟩ := pair_sublist_of_filterMap hpair
  obtain ⟨label, protocol, number⟩ := a
  obtain ⟨label', protocol', number'⟩ := b
  split at ha
  next hlabel =>
    split at hb
    next hlabel' =>
      cases ha
      cases hb
      dsimp only at hlabel hlabel'
      have hname := eq_of_rsplit (candidate_eq_some_iff.mp hentry).1
      have hname' := eq_of_rsplit (candidate_eq_some_iff.mp hentry').1
      rw [← hlabel, ← hname, hlabel, ← hlabel', ← hname']
      exact hlisted.map Prod.fst
    next => cases hb
  next => cases ha

end Lookup

/-! ## §4. Every visible device. -/

/-- A node that is to be reached: its label is visible and it has a recognised protocol. -/
def IsReached (userVisibleLabels : Option (List String)) (node : CmlNode) : Prop :=
  isVisible userVisibleLabels node.label = true ∧ node.protocols ≠ []

/-- The access to a node: under its label, over the protocol of it that is taken before its
others, at the port allocated for both. -/
structure IsAccessTo (allocatedPorts : Ports) (protocolPriority : Option (List String))
    (portPreferences : Option (Dict String String)) (node : CmlNode)
    (device : DeviceAccessInfo) : Prop where
  label : device.deviceLabel = node.label
  protocol : device.protocol ∈ node.protocols
  chosen : ∀ q ∈ node.protocols, q ≠ device.protocol →
    Outranks (priorityInForce protocolPriority) (preferredProtocol portPreferences node.label)
      allocatedPorts.keys node.label device.protocol q
  port : ∃ port, allocatedPorts.get? (portName node.label device.protocol) = some port
    ∧ device.port = some port

/-- Exactly one access for each node that is to be reached. -/
structure NoDeviceLost (nodes : List CmlNode) (allocatedPorts : Ports)
    (userVisibleLabels protocolPriority : Option (List String))
    (portPreferences : Option (Dict String String)) (devices : List DeviceAccessInfo) : Prop where
  labels_unique : (devices.map DeviceAccessInfo.deviceLabel).Nodup
  found : ∀ node ∈ nodes, IsReached userVisibleLabels node →
    ∃ device ∈ devices, IsAccessTo allocatedPorts protocolPriority portPreferences node device
  belongs : ∀ device ∈ devices, ∃ node ∈ nodes, IsReached userVisibleLabels node
    ∧ IsAccessTo allocatedPorts protocolPriority portPreferences node device

/-- The label of every node that is to be reached is written in names as it is; and where
a node is written in names with a visible label, there is a node that has this label, and
whatever protocol it lacks of the other is taken after one of its own. -/
structure LabelsKept (nodes : List CmlNode) (allocatedPorts : Ports)
    (userVisibleLabels protocolPriority : Option (List String))
    (portPreferences : Option (Dict String String)) : Prop where
  kept : ∀ node ∈ nodes, IsReached userVisibleLabels node →
    node.label ≠ "" ∧ safeLabel node.label = node.label
  owned : ∀ node ∈ nodes, node.label ≠ "" → node.protocols ≠ [] →
    isVisible userVisibleLabels (safeLabel node.label) = true →
      ∃ owner ∈ nodes, owner.label = safeLabel node.label
        ∧ ∀ p ∈ node.protocols, p ∉ owner.protocols → ∃ q ∈ owner.protocols,
          Outranks (priorityInForce protocolPriority)
            (preferredProtocol portPreferences owner.label) allocatedPorts.keys owner.label q p

/-- Distinct elements do not stand in both orders. -/
theorem not_swapped_sublist {α : Type} {a b : α} :
    ∀ {l : List α}, l.Nodup → [a, b].Sublist l → [b, a].Sublist l → False
  | [], _, h, _ => by cases h
  | x :: l, hl, h, h' => by
      obtain ⟨hx, hl⟩ := List.nodup_cons.mp hl
      cases h with
      | cons _ h =>
          cases h' with
          | cons _ h' => exact not_swapped_sublist hl h h'
          | cons_cons _ _ => exact hx (h.subset (List.mem_cons_of_mem _ List.mem_cons_self))
      | cons_cons _ h =>
          cases h' with
          | cons _ h' => exact hx (h'.subset (List.mem_cons_of_mem _ List.mem_cons_self))
          | cons_cons _ _ => exact hx (h.subset List.mem_cons_self)

/-- Of two protocols at most one is taken before the other. -/
theorem Outranks.asymm {priority : List String} {preferred : Option String}
    {portNames : List String} {nodeLabel p q : String} (hnames : portNames.Nodup)
    (h : Outranks priority preferred portNames nodeLabel p q)
    (h' : Outranks priority preferred portNames nodeLabel q p) : p = q := by
  rcases h with hp | ⟨hq, h⟩
  · rcases h' with hq | ⟨hp', -⟩
    · exact Option.some.inj (hp.symm.trans hq)
    · exact absurd hp hp'
  · rcases h' with hq' | ⟨-, h'⟩
    · exact absurd hq' hq
    · rcases h with hlt | ⟨heq, hlisted⟩
      · rcases h' with hlt' | ⟨heq', -⟩
        · exact absurd hlt (Nat.lt_asymm hlt')
        · exact absurd heq'.symm hlt.ne
      · rcases h' with hlt' | ⟨-, hlisted'⟩
        · exact absurd heq.symm hlt'.ne
        · exact (not_swapped_sublist hnames hlisted hlisted').elim

section Devices

variable {nodes : List CmlNode} {allocatedPorts : Ports} {workerIp : String}
  {userVisibleLabels protocolPriority : Option (List String)}
  {portPreferences : Option (Dict String String)}

/-- The ports of the nodes that are written in names with a label are its candidates. -/
theorem exists_candidate (hports : allocatedPorts.keys.Perm
      (PortTemplate.fromCmlNodes nodes).portNames) {node : CmlNode} (hnode : node ∈ nodes)
    (hlabel : node.label ≠ "")
    (hvisible : isVisible userVisibleLabels (safeLabel node.label) = true) {protocol : String}
    (hprotocol : protocol ∈ node.protocols) :
    ∃ port, (protocol, port)
      ∈ candidatesOf userVisibleLabels allocatedPorts (safeLabel node.label) := by
  have hname : portName node.label protocol ∈ allocatedPorts.keys :=
    hports.mem_iff.mpr ((PortTemplate.mem_portNames_iff nodes _).mpr
      ⟨node, hnode, hlabel, protocol, hprotocol, rfl⟩)
  obtain ⟨port, hport⟩ := (Dict.mem_keys_iff _ _).mp hname
  exact ⟨port, mem_candidatesOf.mpr
    ⟨hvisible, _, rsplit_portName (CmlNode.protocols_mem hprotocol), hport⟩⟩

/-- And only these. -/
theorem node_of_candidate (hports : allocatedPorts.keys.Perm
      (PortTemplate.fromCmlNodes nodes).portNames) {nodeLabel protocol : String} {port : Int}
    (h : (protocol, port) ∈ candidatesOf userVisibleLabels allocatedPorts nodeLabel) :
    isVisible userVisibleLabels nodeLabel = true
      ∧ allocatedPorts.get? (portName nodeLabel protocol) = some port
      ∧ ∃ node ∈ nodes, node.label ≠ "" ∧ safeLabel node.label = nodeLabel
        ∧ protocol ∈ node.protocols := by
  obtain ⟨hvisible, name, hparts, hport⟩ := mem_candidatesOf.mp h
  have hname := hports.mem_iff.mp ((Dict.mem_keys_iff _ _).mpr ⟨port, hport⟩)
  obtain ⟨node, hnode, hlabel, protocol', hprotocol, rfl⟩ :=
    (PortTemplate.mem_portNames_iff nodes name).mp hname
  rw [rsplit_portName (CmlNode.protocols_mem hprotocol)] at hparts
  cases hparts
  refine ⟨hvisible, ?_, node, hnode, hlabel, rfl, hprotocol⟩
  have hsame : portName (safeLabel node.label) protocol = portName node.label protocol := by
    unfold portName
    rw [safeLabel_safeLabel]
  rw [hsame, hport]

/-- A device is the port that is taken for its label. -/
theorem mem_devices_iff {device : DeviceAccessInfo} :
    device ∈ buildDeviceAccessFromAllocatedPorts allocatedPorts workerIp userVisibleLabels
        protocolPriority portPreferences
      ↔ ∃ taken, resolveConflict (priorityInForce protocolPriority)
            (preferredProtocol portPreferences device.deviceLabel)
            (candidatesOf userVisibleLabels allocatedPorts device.deviceLabel) = some taken
          ∧ device = ⟨device.deviceLabel, taken.1, workerIp, some taken.2, none⟩ := by
  unfold buildDeviceAccessFromAllocatedPorts
  rw [List.mem_filterMap]
  constructor
  · rintro ⟨⟨nodeLabel, portList⟩, hentry, heq⟩
    obtain ⟨taken, htaken, rfl⟩ := Option.map_eq_some_iff.mp heq
    have hget := (Dict.get?_eq_some_iff _ _ _).mpr hentry
    unfold candidates at hget
    rw [Dict.get?_group] at hget
    split at hget
    next => cases hget
    next =>
      cases hget
      exact ⟨taken, htaken, rfl⟩
  · rintro ⟨taken, htaken, heq⟩
    refine ⟨(device.deviceLabel,
      candidatesOf userVisibleLabels allocatedPorts device.deviceLabel), ?_, ?_⟩
    · refine (Dict.get?_eq_some_iff _ _ _).mp ?_
      unfold candidates
      rw [Dict.get?_group]
      refine if_neg fun hnil => ?_
      unfold candidatesOf at htaken
      rw [hnil] at htaken
      cases htaken
    · exact Option.map_eq_some_iff.mpr ⟨taken, htaken, heq.symm⟩

/-- No label is there twice. -/
theorem deviceLabels_nodup :
    ((buildDeviceAccessFromAllocatedPorts allocatedPorts workerIp userVisibleLabels
      protocolPriority portPreferences).map DeviceAccessInfo.deviceLabel).Nodup := by
  unfold buildDeviceAccessFromAllocatedPorts
  refine List.pairwise_map.mpr (List.pairwise_filterMap.mpr ?_)
  refine (List.pairwise_map.mp (candidates userVisibleLabels allocatedPorts).nodup).imp ?_
  rintro ⟨nodeLabel, portList⟩ ⟨nodeLabel', portList'⟩ hne device hdevice device' hdevice'
  obtain ⟨taken, -, rfl⟩ := Option.map_eq_some_iff.mp hdevice
  obtain ⟨taken', -, rfl⟩ := Option.map_eq_some_iff.mp hdevice'
  exact hne

/-- Every label with a candidate has a device. -/
theorem exists_device {nodeLabel protocol : String} {port : Int}
    (h : (protocol, port) ∈ candidatesOf userVisibleLabels allocatedPorts nodeLabel) :
    ∃ device ∈ buildDeviceAccessFromAllocatedPorts allocatedPorts workerIp userVisibleLabels
      protocolPriority portPreferences, device.deviceLabel = nodeLabel := by
  obtain ⟨taken, htaken⟩ := resolveConflict_isSome (priorityInForce protocolPriority)
    (preferredProtocol portPreferences nodeLabel) (List.ne_nil_of_mem h)
  exact ⟨⟨nodeLabel, taken.1, workerIp, some taken.2, none⟩,
    mem_devices_iff.mpr ⟨taken, htaken, rfl⟩, rfl⟩

/-- What a device is: a candidate of its label that is taken before the others. -/
theorem device_best (hports : allocatedPorts.keys.Perm
      (PortTemplate.fromCmlNodes nodes).portNames) {device : DeviceAccessInfo}
    (h : device ∈ buildDeviceAccessFromAllocatedPorts allocatedPorts workerIp userVisibleLabels
      protocolPriority portPreferences) :
    (∃ port, (device.protocol, port)
        ∈ candidatesOf userVisibleLabels allocatedPorts device.deviceLabel
      ∧ device.port = some port)
    ∧ ∀ q port, (q, port) ∈ candidatesOf userVisibleLabels allocatedPorts device.deviceLabel →
      q ≠ device.protocol →
        Outranks (priorityInForce protocolPriority)
          (preferredProtocol portPreferences device.deviceLabel) allocatedPorts.keys
          device.deviceLabel device.protocol q := by
  obtain ⟨⟨protocol, port⟩, htaken, heq⟩ := mem_devices_iff.mp h
  obtain ⟨hmem, hbest⟩ := resolveConflict_best htaken
  rw [heq]
  refine ⟨⟨port, hmem, rfl⟩, fun q port' hq hne => ?_⟩
  rcases hbest (q, port') hq hne with hpreferred | ⟨hother, hlt | ⟨hidx, hlisted⟩⟩
  · exact .inl hpreferred
  · exact .inr ⟨hother, .inl hlt⟩
  · refine .inr ⟨hother, .inr ⟨hidx, ?_⟩⟩
    -- a label with candidates is written in their names as it is
    obtain ⟨-, -, node, -, -, hlabel, -⟩ := node_of_candidate hports hmem
    have hkept : safeLabel device.deviceLabel = device.deviceLabel := by
      rw [← hlabel, safeLabel_safeLabel]
    have hnames := listed_of_candidates hlisted
    unfold portName
    dsimp only at hkept ⊢
    rw [hkept]
    exact hnames

/-- A device is the access to a node that has its label and its protocol. -/
theorem isAccessTo_of_device (hports : allocatedPorts.keys.Perm
      (PortTemplate.fromCmlNodes nodes).portNames) {device : DeviceAccessInfo}
    (h : device ∈ buildDeviceAccessFromAllocatedPorts allocatedPorts workerIp userVisibleLabels
      protocolPriority portPreferences) {node : CmlNode} (hnode : node ∈ nodes)
    (hlabel : node.label = device.deviceLabel) (hgiven : node.label ≠ "")
    (hkept : safeLabel node.label = node.label) (hprotocol : device.protocol ∈ node.protocols) :
    IsAccessTo allocatedPorts protocolPriority portPreferences node device := by
  obtain ⟨⟨port, hmem, hport⟩, hbest⟩ := device_best hports h
  obtain ⟨hvisible, hallocated, -⟩ := node_of_candidate hports hmem
  rw [← hlabel] at hvisible hallocated hbest
  refine ⟨hlabel.symm, hprotocol, fun q hq hne => ?_, port, hallocated, hport⟩
  obtain ⟨port', hmem'⟩ := exists_candidate hports hnode hgiven (hkept.symm ▸ hvisible) hq
  rw [hkept] at hmem'
  exact hbest q port' hmem' hne

/-- Where labels are kept, a device is that of a node with its label. -/
theorem LabelsKept.node_of_device (hkept : LabelsKept nodes allocatedPorts userVisibleLabels
      protocolPriority portPreferences) (hports : allocatedPorts.keys.Perm
      (PortTemplate.fromCmlNodes nodes).portNames) {device : DeviceAccessInfo}
    (h : device ∈ buildDeviceAccessFromAllocatedPorts allocatedPorts workerIp userVisibleLabels
      protocolPriority portPreferences) :
    ∃ node ∈ nodes, node.label = device.deviceLabel ∧ IsReached userVisibleLabels node
      ∧ IsAccessTo allocatedPorts protocolPriority portPreferences node device := by
  obtain ⟨⟨port, hmem, -⟩, hbest⟩ := device_best hports h
  obtain ⟨hvisible, -, node, hnode, hgiven, hlabel, hprotocol⟩ := node_of_candidate hports hmem
  obtain ⟨owner, howner, hownerLabel, hlacks⟩ :=
    hkept.owned node hnode hgiven (List.ne_nil_of_mem hprotocol) (hlabel ▸ hvisible)
  have hsame : owner.label = device.deviceLabel := hownerLabel.trans hlabel
  have hownerVisible : isVisible userVisibleLabels owner.label = true := hsame ▸ hvisible
  have hownerGiven : owner.label ≠ "" := hownerLabel ▸ safeLabel_given hgiven
  have hownerKept : safeLabel owner.label = owner.label := by
    rw [hownerLabel, safeLabel_safeLabel]
  have hown : device.protocol ∈ owner.protocols := by
    by_contra hnot
    -- the owner has a protocol that is taken first, and it is a candidate too
    obtain ⟨q, hq, houtranks⟩ := hlacks device.protocol hprotocol hnot
    obtain ⟨port', hmem'⟩ := exists_candidate hports howner hownerGiven
      (hownerKept.symm ▸ hownerVisible) hq
    rw [hownerKept, hsame] at hmem'
    have hne : q ≠ device.protocol := fun heq => hnot (heq ▸ hq)
    have houtranks' := hbest q port' hmem' hne
    rw [hsame] at houtranks
    have hnames : allocatedPorts.keys.Nodup := allocatedPorts.nodup
    exact hne (houtranks.asymm hnames houtranks')
  exact ⟨owner, howner, hsame, ⟨hownerVisible, List.ne_nil_of_mem hown⟩,
    isAccessTo_of_device hports h howner hsame hownerGiven hownerKept hown⟩

end Devices

/-- **Exactly one access for each node that is to be reached** is what the allocated ports give
iff labels are kept. -/
theorem device_access_iff (nodes : List CmlNode) (hlabels : (nodes.map CmlNode.label).Nodup)
    (allocatedPorts : Ports) (workerIp : String)
    (hports : allocatedPorts.keys.Perm (PortTemplate.fromCmlNodes nodes).portNames)
    (userVisibleLabels protocolPriority : Option (List String))
    (portPreferences : Option (Dict String String)) :
    NoDeviceLost nodes allocatedPorts userVisibleLabels protocolPriority portPreferences
        (buildDeviceAccessFromAllocatedPorts allocatedPorts workerIp userVisibleLabels
          protocolPriority portPreferences)
      ↔ LabelsKept nodes allocatedPorts userVisibleLabels protocolPriority portPreferences := by
  constructor
  · intro h
    constructor
    · intro node hnode hreached
      obtain ⟨device, hdevice, haccess⟩ := h.found node hnode hreached
      obtain ⟨⟨port, hmem, -⟩, -⟩ := device_best hports hdevice
      obtain ⟨-, -, other, -, hgiven, hlabel, -⟩ := node_of_candidate hports hmem
      rw [haccess.label] at hlabel
      rw [← hlabel]
      exact ⟨safeLabel_given hgiven, safeLabel_safeLabel _⟩
    · intro node hnode hgiven hprotocols hvisible
      obtain ⟨p₀, hp₀⟩ := List.exists_mem_of_ne_nil _ hprotocols
      obtain ⟨port₀, hmem₀⟩ := exists_candidate hports hnode hgiven hvisible hp₀
      obtain ⟨device, hdevice, hlabel⟩ := exists_device hmem₀
      obtain ⟨owner, howner, -, haccess⟩ := h.belongs device hdevice
      have hsame : owner.label = safeLabel node.label := haccess.label.symm.trans hlabel
      refine ⟨owner, howner, hsame, fun p hp hlacks => ⟨device.protocol, haccess.protocol, ?_⟩⟩
      obtain ⟨port, hmem⟩ := exists_candidate hports hnode hgiven hvisible hp
      rw [← hlabel] at hmem
      -- the device has the best of the protocols, so none that is better is lacking
      have hbest := (device_best hports hdevice).2 p port hmem fun heq =>
        hlacks (heq ▸ haccess.protocol)
      rwa [haccess.label] at hbest
  · intro h
    refine ⟨deviceLabels_nodup, fun node hnode hreached => ?_, fun device hdevice => ?_⟩
    · obtain ⟨hgiven, hkept⟩ := h.kept node hnode hreached
      obtain ⟨p, hp⟩ := List.exists_mem_of_ne_nil _ hreached.2
      obtain ⟨port, hmem⟩ :=
        exists_candidate hports hnode hgiven (hkept.symm ▸ hreached.1) hp
      obtain ⟨device, hdevice, hlabel⟩ := exists_device hmem
      obtain ⟨owner, howner, hown, -, haccess⟩ := h.node_of_device hports hdevice
      -- the labels of the nodes are unique: the owner of the device is the node itself
      have heq : owner = node :=
        List.inj_on_of_nodup_map hlabels howner hnode (hown.trans (hlabel.trans hkept))
      exact ⟨device, hdevice, heq ▸ haccess⟩
    · obtain ⟨owner, howner, -, hreached, haccess⟩ := h.node_of_device hports hdevice
      exact ⟨owner, howner, hreached, haccess⟩

/-- Labels that are fit to stand in names are kept. -/
theorem LabelsKept.of_fit {nodes : List CmlNode}
    (h : ∀ node ∈ nodes, node.label ≠ "" ∧ safeLabel node.label = node.label)
    (allocatedPorts : Ports) (userVisibleLabels protocolPriority : Option (List String))
    (portPreferences : Option (Dict String String)) :
    LabelsKept nodes allocatedPorts userVisibleLabels protocolPriority portPreferences where
  kept node hnode _ := h node hnode
  owned node hnode _ _ _ :=
    ⟨node, hnode, (h node hnode).2.symm, fun _ hp hlacks => absurd hp hlacks⟩

/-- A desktop with two ports and a router with one. -/
def desktopAndRouter : List CmlNode :=
  [⟨"desktop_1", ["serial:5041", " VNC:"]⟩, ⟨"iosv-0", ["serial:5042", "note"]⟩]

/-- Their ports. -/
def desktopAndRouterPorts : Ports :=
  Dict.ofList [("desktop_1_serial", 3000), ("desktop_1_vnc", 3001), ("iosv-0_serial", 3002)]

/-- Both devices are reached, each at its port. -/
theorem desktop_and_router_reached :
    NoDeviceLost desktopAndRouter desktopAndRouterPorts (some ["desktop_1", "iosv-0"]) none none
      (buildDeviceAccessFromAllocatedPorts desktopAndRouterPorts "10.0.0.1"
        (some ["desktop_1", "iosv-0"]) none none) :=
  (device_access_iff desktopAndRouter (by decide) desktopAndRouterPorts "10.0.0.1"
    (by decide +kernel) (some ["desktop_1", "iosv-0"]) none none).mpr
    (LabelsKept.of_fit (by decide +kernel) _ _ _ _)

/-- A visible node with a space in its label is lost. -/
theorem spaced_label_lost :
    ([⟨"PC 1", ["serial:5041"]⟩].map CmlNode.label).Nodup
      ∧ (Dict.ofList [("PC_1_serial", (3000 : Int))]).keys.Perm
          (PortTemplate.fromCmlNodes [⟨"PC 1", ["serial:5041"]⟩]).portNames
      ∧ ¬ NoDeviceLost [⟨"PC 1", ["serial:5041"]⟩] (Dict.ofList [("PC_1_serial", 3000)])
          (some ["PC 1"]) none none
          (buildDeviceAccessFromAllocatedPorts (Dict.ofList [("PC_1_serial", 3000)]) "10.0.0.1"
            (some ["PC 1"]) none none) := by
  refine ⟨by decide, by decide +kernel, fun h => ?_⟩
  have hreached : IsReached (some ["PC 1"]) ⟨"PC 1", ["serial:5041"]⟩ :=
    ⟨by decide, by decide +kernel⟩
  obtain ⟨device, hdevice, -⟩ := h.found _ List.mem_cons_self hreached
  have hnone : buildDeviceAccessFromAllocatedPorts (Dict.ofList [("PC_1_serial", 3000)]) "10.0.0.1"
      (some ["PC 1"]) none none = [] := by
    decide +kernel
  rw [hnone] at hdevice
  cases hdevice

/-! ## §5. Devices from tags. -/

/-- `NodeInfo`. -/
structure NodeInfo where
  label : String
  tags : Option (List String) := none

/-- The number of decimal digits, any two of which may have one underscore between them. -/
def parseDigits (digits : List Char) : Option Nat :=
  let groups := digits.splitOn '_'
  if groups.all (fun group => !group.isEmpty && group.all fun c => (decimalDigit c).isSome)
      -- `sys.get_int_max_str_digits()`
      && groups.flatten.length ≤ 4300 then
    some ((groups.flatten.filterMap decimalDigit).foldl (fun number digit => 10 * number + digit) 0)
  else none

/-- `int(text)`, where no white space is around the text. -/
def parseInt (text : String) : Option Int :=
  match text.toList with
  | '-' :: digits => (parseDigits digits).map fun number => -(number : Int)
  | '+' :: digits => (parseDigits digits).map Int.ofNat
  | digits => (parseDigits digits).map Int.ofNat

/-- The protocol and the port of a valid tag. -/
def validPair (tag : String) : Option (String × Int) :=
  match tag.toList.span (· ≠ ':') with
  | (_, []) => none
  | (protocol, _ :: port) =>
      (parseInt (strip (String.ofList port))).map fun number =>
        (strip (String.ofList protocol), number)

/-- The first pass over a node. -/
def NodeInfo.validPairs (node : NodeInfo) : List (String × Int) :=
  (node.tags.getD []).filterMap validPair

/-- A node that is not passed over. -/
def isIncluded (userVisibleLabels : Option (List String)) (node : NodeInfo) : Bool :=
  node.tags.getD [] ≠ [] && isVisible userVisibleLabels node.label

/-- The second pass over a node. -/
def NodeInfo.devices (workerIp : String) (node : NodeInfo) : List DeviceAccessInfo :=
  let useSuffix := decide (node.validPairs.length > 1)
  node.validPairs.map fun (protocol, port) =>
    { deviceLabel := if useSuffix then node.label ++ "_" ++ protocol else node.label
      protocol := protocol
      host := workerIp
      port := some port }

/-- `build_device_access_list`. -/
def buildDeviceAccessList (nodes : List NodeInfo) (workerIp : String)
    (userVisibleLabels : Option (List String)) : List DeviceAccessInfo :=
  (nodes.filter (isIncluded userVisibleLabels)).flatMap (NodeInfo.devices workerIp)

/-- Labels that are all different, and for each included node one device for each of its distinct
valid tags. -/
structure DevicesDistinct (nodes : List NodeInfo) (userVisibleLabels : Option (List String))
    (devices : List DeviceAccessInfo) : Prop where
  labels_unique : (devices.map DeviceAccessInfo.deviceLabel).Nodup
  one_each : ∃ parts, devices = parts.flatten
    ∧ List.Forall₂ (fun node part =>
        (part.map fun device => (device.protocol, device.port)).Perm
          (((node.tags.getD []).dedup.filterMap validPair).map fun pair => (pair.1, some pair.2)))
      (nodes.filter (isIncluded userVisibleLabels)) parts

/-- No included node has a protocol twice; and the labels that are followed by a protocol are
neither labels of included nodes with one valid tag nor such labels of other nodes. -/
structure SuffixesApart (nodes : List NodeInfo) : Prop where
  protocols : ∀ node ∈ nodes, (node.validPairs.map Prod.fst).Nodup
  single : ∀ node ∈ nodes, node.validPairs.length > 1 → ∀ p ∈ node.validPairs.map Prod.fst,
    ∀ other ∈ nodes, other.validPairs.length = 1 → other.label ≠ node.label ++ "_" ++ p
  several : ∀ node ∈ nodes, node.validPairs.length > 1 → ∀ p ∈ node.validPairs.map Prod.fst,
    ∀ other ∈ nodes, other.validPairs.length > 1 → other.label ≠ node.label →
      ∀ q ∈ other.validPairs.map Prod.fst, other.label ++ "_" ++ q ≠ node.label ++ "_" ++ p

/-- The labels of the devices of a node. -/
def NodeInfo.deviceLabels (node : NodeInfo) : List String :=
  (node.validPairs.map Prod.fst).map fun protocol =>
    if node.validPairs.length > 1 then node.label ++ "_" ++ protocol else node.label

theorem map_deviceLabel_devices (workerIp : String) (node : NodeInfo) :
    (node.devices workerIp).map DeviceAccessInfo.deviceLabel = node.deviceLabels := by
  unfold NodeInfo.devices NodeInfo.deviceLabels
  rw [List.map_map, List.map_map]
  refine List.map_congr_left fun pair _ => ?_
  simp only [Function.comp_apply, decide_eq_true_iff]

/-- With several valid tags, a label of a device is that of the node with a protocol. -/
theorem NodeInfo.mem_deviceLabels_of_several {node : NodeInfo} (h : node.validPairs.length > 1)
    {label : String} : label ∈ node.deviceLabels
      ↔ ∃ p ∈ node.validPairs.map Prod.fst, node.label ++ "_" ++ p = label := by
  unfold NodeInfo.deviceLabels
  simp only [if_pos h]
  exact List.mem_map

/-- With one it is that of the node. -/
theorem NodeInfo.deviceLabels_of_single {node : NodeInfo} (h : node.validPairs.length = 1) :
    node.deviceLabels = [node.label] := by
  unfold NodeInfo.deviceLabels
  simp only [h, Nat.lt_irrefl, gt_iff_lt, if_false]
  rw [List.map_const', List.length_map, h]
  rfl

theorem NodeInfo.deviceLabels_cases (node : NodeInfo) :
    node.deviceLabels = [] ∨ node.validPairs.length = 1 ∨ node.validPairs.length > 1 := by
  rcases Nat.lt_trichotomy node.validPairs.length 1 with hzero | hone | hseveral
  · left
    have hnil := List.length_eq_zero_iff.mp (Nat.lt_one_iff.mp hzero)
    unfold NodeInfo.deviceLabels
    rw [hnil]
    rfl
  · exact .inr (.inl hone)
  · exact .inr (.inr hseveral)

/-- The labels of a node are distinct iff its protocols are. -/
theorem NodeInfo.deviceLabels_nodup_iff (node : NodeInfo) :
    node.deviceLabels.Nodup ↔ (node.validPairs.map Prod.fst).Nodup := by
  by_cases h : node.validPairs.length > 1
  · unfold NodeInfo.deviceLabels
    simp only [if_pos h]
    refine List.nodup_map_iff fun p q heq => ?_
    exact String.append_right_inj _ |>.mp heq
  · have hshort : (node.validPairs.map Prod.fst).length ≤ 1 := by
      rw [List.length_map]
      exact Nat.le_of_not_lt h
    have hlabels : node.deviceLabels.length ≤ 1 := by
      unfold NodeInfo.deviceLabels
      rwa [List.length_map]
    exact iff_of_true (List.nodup_iff_count_le_one.mpr fun _ => List.count_le_length.trans hlabels)
      (List.nodup_iff_count_le_one.mpr fun _ => List.count_le_length.trans hshort)

/-- Where suffixes are apart, so are the labels of nodes with different ones. -/
theorem SuffixesApart.disjoint {nodes : List NodeInfo} (h : SuffixesApart nodes)
    {node other : NodeInfo} (hnode : node ∈ nodes) (hother : other ∈ nodes)
    (hne : node.label ≠ other.label) : node.deviceLabels.Disjoint other.deviceLabels := by
  intro label hlabel hlabel'
  rcases node.deviceLabels_cases with hnone | hone | hseveral
  · rw [hnone] at hlabel
    cases hlabel
  · rw [NodeInfo.deviceLabels_of_single hone, List.mem_singleton] at hlabel
    rcases other.deviceLabels_cases with hnone' | hone' | hseveral'
    · rw [hnone'] at hlabel'
      cases hlabel'
    · rw [NodeInfo.deviceLabels_of_single hone', List.mem_singleton] at hlabel'
      exact hne (hlabel.symm.trans hlabel')
    · obtain ⟨q, hq, hsuffixed⟩ := (NodeInfo.mem_deviceLabels_of_several hseveral').mp hlabel'
      exact h.single other hother hseveral' q hq node hnode hone (hlabel.symm.trans hsuffixed.symm)
  · obtain ⟨p, hp, hsuffixed⟩ := (NodeInfo.mem_deviceLabels_of_several hseveral).mp hlabel
    rcases other.deviceLabels_cases with hnone' | hone' | hseveral'
    · rw [hnone'] at hlabel'
      cases hlabel'
    · rw [NodeInfo.deviceLabels_of_single hone', List.mem_singleton] at hlabel'
      exact h.single node hnode hseveral p hp other hother hone' (hlabel'.symm.trans hsuffixed.symm)
    · obtain ⟨q, hq, hsuffixed'⟩ := (NodeInfo.mem_deviceLabels_of_several hseveral').mp hlabel'
      exact h.several node hnode hseveral p hp other hother hseveral' (Ne.symm hne) q hq
        (hsuffixed'.trans hsuffixed.symm)

/-- Distinct tags of a node with distinct protocols: the devices are theirs. -/
theorem NodeInfo.devices_perm {node : NodeInfo} (h : (node.validPairs.map Prod.fst).Nodup)
    (workerIp : String) :
    ((node.devices workerIp).map fun device => (device.protocol, device.port)).Perm
      (((node.tags.getD []).dedup.filterMap validPair).map fun pair => (pair.1, some pair.2)) := by
  have hpairs : node.validPairs.Nodup := h.of_map _
  have hsub : ((node.tags.getD []).dedup.filterMap validPair).Sublist node.validPairs :=
    (List.dedup_sublist _).filterMap validPair
  have hperm : node.validPairs.Perm ((node.tags.getD []).dedup.filterMap validPair) := by
    refine (List.perm_ext_iff_of_nodup hpairs (hsub.nodup hpairs)).mpr fun pair => ?_
    unfold NodeInfo.validPairs
    rw [List.mem_filterMap, List.mem_filterMap]
    exact exists_congr fun tag => and_congr_left' List.mem_dedup.symm
  unfold NodeInfo.devices
  rw [List.map_map]
  exact hperm.map _

/-- **Labels of devices from tags are distinct**, with one device for each distinct valid tag, iff
suffixes are apart. -/
theorem access_list_iff (nodes : List NodeInfo) (hlabels : (nodes.map NodeInfo.label).Nodup)
    (workerIp : String) (userVisibleLabels : Option (List String)) :
    DevicesDistinct nodes userVisibleLabels
        (buildDeviceAccessList nodes workerIp userVisibleLabels)
      ↔ SuffixesApart (nodes.filter (isIncluded userVisibleLabels)) := by
  have hall : (buildDeviceAccessList nodes workerIp userVisibleLabels).map
      DeviceAccessInfo.deviceLabel
        = (nodes.filter (isIncluded userVisibleLabels)).flatMap NodeInfo.deviceLabels := by
    unfold buildDeviceAccessList
    rw [List.map_flatMap]
    exact congrArg (List.flatMap · _) (funext (map_deviceLabel_devices workerIp))
  constructor
  · intro h
    have hunique := h.labels_unique
    rw [hall, List.nodup_flatMap] at hunique
    obtain ⟨heach, hpairwise⟩ := hunique
    -- labels that are unique in the list are not shared by two nodes
    have hapart : ∀ {node other : NodeInfo}, node ∈ nodes.filter (isIncluded userVisibleLabels) →
        other ∈ nodes.filter (isIncluded userVisibleLabels) → node ≠ other →
        ∀ label ∈ node.deviceLabels, label ∉ other.deviceLabels := by
      intro node other hnode hother hne label hlabel hlabel'
      have : Std.Symm (Function.onFun List.Disjoint NodeInfo.deviceLabels) :=
        ⟨fun _ _ hdisjoint => hdisjoint.symm⟩
      exact hpairwise.forall hnode hother hne hlabel hlabel'
    refine ⟨fun node hnode => (node.deviceLabels_nodup_iff).mp (heach node hnode), ?_, ?_⟩
    · intro node hnode hseveral p hp other hother hone heq
      have hne : node ≠ other := fun hsame => absurd (hsame ▸ hone) hseveral.ne'
      refine hapart hnode hother hne _
        ((NodeInfo.mem_deviceLabels_of_several hseveral).mpr ⟨p, hp, rfl⟩) ?_
      rw [NodeInfo.deviceLabels_of_single hone, heq]
      exact List.mem_singleton_self _
    · intro node hnode hseveral p hp other hother hseveral' hlabel q hq heq
      have hne : node ≠ other := fun hsame => hlabel (hsame ▸ rfl)
      exact hapart hnode hother hne _
        ((NodeInfo.mem_deviceLabels_of_several hseveral).mpr ⟨p, hp, rfl⟩)
        ((NodeInfo.mem_deviceLabels_of_several hseveral').mpr ⟨q, hq, heq⟩)
  · intro h
    constructor
    · rw [hall, List.nodup_flatMap]
      refine ⟨fun node hnode => (node.deviceLabels_nodup_iff).mpr (h.protocols node hnode), ?_⟩
      -- no two nodes have one label, so that only the suffixes could clash
      have hdistinct : (nodes.filter (isIncluded userVisibleLabels)).Pairwise fun node other =>
          node.label ≠ other.label :=
        (List.pairwise_map.mp hlabels).sublist List.filter_sublist
      exact hdistinct.imp_of_mem fun hnode hother hne => h.disjoint hnode hother hne
    · refine ⟨(nodes.filter (isIncluded userVisibleLabels)).map (NodeInfo.devices workerIp),
        List.flatMap_def, ?_⟩
      rw [List.forall₂_map_right_iff]
      exact List.forall₂_same.mpr fun node hnode =>
        NodeInfo.devices_perm (h.protocols node hnode) workerIp

/-- A desktop with two tags and a router with one. -/
def taggedNodes : List NodeInfo :=
  [⟨"desktop", some ["serial:5041", "vnc: 5_044"]⟩, ⟨"iosv-0", some ["serial:+1"]⟩]

/-- They are three devices. -/
theorem tagged_nodes_distinct :
    DevicesDistinct taggedNodes none (buildDeviceAccessList taggedNodes "10.0.0.1" none) :=
  (access_list_iff taggedNodes (by decide) "10.0.0.1" none).mpr
    ⟨by decide +kernel, by decide +kernel, by decide +kernel⟩

/-- A node with two tags of one protocol. -/
def twiceSerial : List NodeInfo := [⟨"PC", some ["serial:5041", "serial:5042"]⟩]

/-- It is two devices with one label. -/
theorem repeated_protocol_collides :
    (twiceSerial.map NodeInfo.label).Nodup
      ∧ ¬ DevicesDistinct twiceSerial none (buildDeviceAccessList twiceSerial "10.0.0.1" none) := by
  refine ⟨by decide, fun h => ?_⟩
  have hlabels : (buildDeviceAccessList twiceSerial "10.0.0.1" none).map
      DeviceAccessInfo.deviceLabel = ["PC_serial", "PC_serial"] := by
    decide +kernel
  have hunique := h.labels_unique
  rw [hlabels] at hunique
  exact absurd hunique (by decide)

end CmlCloudManager.Controller.DeviceAccess
