/-
  CmlCloudManager.ControlPlane.PortNames
  ──────────────────────────────────────
  **THE PORTS A TOPOLOGY ASKS FOR.**

  The nodes of a CML topology say with tags such as `serial:5041` which protocols
  they are reached by.  The content sync makes a port of every recognised one and
  names it after node and protocol; the controller reads the name back, splitting it
  at the last underscore.

  What is read back is the protocol, and the label as the name has it: every
  character that may not stand in a name is an underscore there.

  Main results:
    • `mem_portNames_iff`     — the ports of a template, by node and protocol,
    • `rsplit_portName`       — what a name is read back as,
    • `safeLabel_eq_iff`      — the labels that come back as they were.
-/
import CmlCloudManager.ControlPlane.LabletDefinition
import CmlCloudManager.ControlPlane.PortAllocation

namespace CmlCloudManager.ControlPlane

open CmlCloudManager.Foundation CmlCloudManager.Pipeline

/-! ## §1. Tags. -/

/-- The zeros of the scripts that have decimal digits, each followed by the other nine. -/
def decimalZeros : List Nat :=
  [0x30, 0x660, 0x6f0, 0x7c0, 0x966, 0x9e6, 0xa66, 0xae6, 0xb66, 0xbe6, 0xc66, 0xce6, 0xd66, 0xde6,
    0xe50, 0xed0, 0xf20, 0x1040, 0x1090, 0x17e0, 0x1810, 0x1946, 0x19d0, 0x1a80, 0x1a90, 0x1b50,
    0x1bb0, 0x1c40, 0x1c50, 0xa620, 0xa8d0, 0xa900, 0xa9d0, 0xa9f0, 0xaa50, 0xabf0, 0xff10,
    0x104a0, 0x10d30, 0x11066, 0x110f0, 0x11136, 0x111d0, 0x112f0, 0x11450, 0x114d0, 0x11650,
    0x116c0, 0x11730, 0x118e0, 0x11950, 0x11c50, 0x11d50, 0x11da0, 0x11f50, 0x16a60, 0x16ac0,
    0x16b50, 0x1d7ce, 0x1d7d8, 0x1d7e2, 0x1d7ec, 0x1d7f6, 0x1e140, 0x1e2f0, 0x1e4f0, 0x1e950,
    0x1fbf0]

/-- The value of a decimal digit. -/
def decimalDigit (c : Char) : Option Nat :=
  (decimalZeros.find? fun base => decide (base ≤ c.toNat ∧ c.toNat < base + 10)).map fun base =>
    c.toNat - base

/-- A letter of the Latin alphabet. -/
def isLatin (c : Char) : Bool := ('a' ≤ c && c ≤ 'z') || ('A' ≤ c && c ≤ 'Z')

/-- `[a-zA-Z0-9_-]`. -/
def isNameChar (c : Char) : Bool :=
  isLatin c || ('0' ≤ c && c ≤ '9') || c == '_' || c == '-'

/-- `CML_TCP_PROTOCOLS`. -/
def cmlTcpProtocols : List String := ["serial", "vnc", "ssh", "telnet", "tcp", "http", "https"]

/-- A node of a CML topology; what is missing of it is empty. -/
structure CmlNode where
  label : String := ""
  tags : List String := []

/-- The group of `^([a-zA-Z][a-zA-Z0-9_-]*):(\d+)?$`: the part before the first colon. -/
def matchTag (tag : List Char) : Option (List Char) :=
  match tag.span (· ≠ ':') with
  | (first :: rest, _ :: port) =>
      if isLatin first && rest.all isNameChar && port.all fun c => (decimalDigit c).isSome then
        some (first :: rest)
      else none
  | _ => none

/-- The protocol of a tag, if it is recognised. -/
def tagProtocol (tag : String) : Option String :=
  match matchTag (strip tag).toList with
  | none => none
  | some group =>
      let protocol := (String.ofList group).toLower
      if protocol ∈ cmlTcpProtocols then some protocol else none

/-- The recognised protocols of a node. -/
def CmlNode.protocols (node : CmlNode) : List String := node.tags.filterMap tagProtocol

/-! ## §2. Names. -/

/-- `re.sub(r"[^a-zA-Z0-9_-]", "_", label)`. -/
def safeLabel (label : String) : String :=
  String.ofList (label.toList.map fun c => if isNameChar c then c else '_')

/-- The name of a port. -/
def portName (label protocol : String) : String := safeLabel label ++ "_" ++ protocol

theorem toList_portName (label protocol : String) :
    (portName label protocol).toList = (safeLabel label).toList ++ '_' :: protocol.toList := by
  unfold portName
  rw [String.toList_append, String.toList_append, List.append_assoc]
  rfl

theorem portName_given (label protocol : String) : portName label protocol ≠ "" := by
  intro h
  have htext := toList_portName label protocol
  rw [h] at htext
  simp at htext

/-- The definition of a port. -/
def portDefinition (label protocol : String) : PortDefinition where
  name := portName label protocol
  name_given := portName_given label protocol

namespace PortTemplate

/-- `PortTemplate.empty`. -/
def empty : PortTemplate := ⟨[], List.nodup_nil⟩

/-- A port more, unless its name has been seen. -/
def addPort (t : PortTemplate) (port : PortDefinition) : PortTemplate :=
  if h : port.name ∈ t.portNames then t
  else
    { ports := t.ports ++ [port]
      names_unique := by
        rw [List.map_append]
        refine List.nodup_append.mpr ⟨t.names_unique, List.nodup_singleton _, ?_⟩
        intro name hname name' hname' heq
        rw [List.map_singleton, List.mem_singleton] at hname'
        exact h (hname' ▸ heq ▸ hname) }

/-- One node of the loop. -/
def addNode (t : PortTemplate) (node : CmlNode) : PortTemplate :=
  if node.label = "" then t
  else node.protocols.foldl (fun t protocol => t.addPort (portDefinition node.label protocol)) t

/-- `PortTemplate.from_cml_nodes`. -/
def fromCmlNodes (nodes : List CmlNode) : PortTemplate := nodes.foldl addNode empty

theorem mem_addPort (t : PortTemplate) (port : PortDefinition) (name : String) :
    name ∈ (t.addPort port).portNames ↔ name ∈ t.portNames ∨ name = port.name := by
  unfold addPort
  split
  next hseen =>
    refine ⟨.inl, fun h => h.elim id fun heq => ?_⟩
    rw [heq]
    exact hseen
  next =>
    unfold portNames
    rw [List.map_append, List.mem_append, List.map_singleton, List.mem_singleton]

theorem mem_foldl_addPort (label name : String) :
    ∀ (protocols : List String) (t : PortTemplate),
      name ∈ (protocols.foldl (fun t protocol => t.addPort (portDefinition label protocol))
          t).portNames
        ↔ name ∈ t.portNames ∨ ∃ protocol ∈ protocols, name = portName label protocol
  | [], t => by simp
  | protocol :: rest, t => by
      rw [List.foldl_cons, mem_foldl_addPort label name rest, mem_addPort, or_assoc]
      simp only [List.mem_cons, exists_eq_or_imp]
      rfl

theorem mem_addNode (t : PortTemplate) (node : CmlNode) (name : String) :
    name ∈ (t.addNode node).portNames
      ↔ name ∈ t.portNames
        ∨ node.label ≠ "" ∧ ∃ protocol ∈ node.protocols, name = portName node.label protocol := by
  unfold addNode
  split
  next hempty => simp [hempty]
  next hlabel => rw [mem_foldl_addPort, and_iff_right hlabel]

theorem mem_foldl_addNode (name : String) :
    ∀ (nodes : List CmlNode) (t : PortTemplate),
      name ∈ (nodes.foldl addNode t).portNames
        ↔ name ∈ t.portNames ∨ ∃ node ∈ nodes, node.label ≠ ""
          ∧ ∃ protocol ∈ node.protocols, name = portName node.label protocol
  | [], t => by simp
  | node :: rest, t => by
      rw [List.foldl_cons, mem_foldl_addNode name rest, mem_addNode, or_assoc]
      simp only [List.mem_cons, exists_eq_or_imp]

/-- **The ports of a template**: one for each node with a label and each of its protocols. -/
theorem mem_portNames_iff (nodes : List CmlNode) (name : String) :
    name ∈ (fromCmlNodes nodes).portNames
      ↔ ∃ node ∈ nodes, node.label ≠ ""
        ∧ ∃ protocol ∈ node.protocols, name = portName node.label protocol := by
  unfold fromCmlNodes
  rw [mem_foldl_addNode]
  exact or_iff_right List.not_mem_nil

end PortTemplate

/-! ## §3. Reading a name back. -/

/-- `rsplit("_", 1)`, where there is an underscore. -/
def rsplitUnderscore : List Char → Option (List Char × List Char)
  | [] => none
  | c :: rest =>
      match rsplitUnderscore rest with
      | some (front, back) => some (c :: front, back)
      | none => if c = '_' then some ([], rest) else none

/-- The label and the protocol of a name. -/
def rsplit (name : String) : Option (String × String) :=
  (rsplitUnderscore name.toList).map fun parts => (String.ofList parts.1, String.ofList parts.2)

theorem rsplitUnderscore_none : ∀ {cs : List Char}, '_' ∉ cs → rsplitUnderscore cs = none
  | [], _ => rfl
  | c :: rest, h => by
      unfold rsplitUnderscore
      rw [rsplitUnderscore_none fun hmem => h (List.mem_cons_of_mem _ hmem)]
      refine if_neg fun hc => h ?_
      rw [hc]
      exact List.mem_cons_self

theorem rsplitUnderscore_append {back : List Char} (h : '_' ∉ back) :
    ∀ front : List Char, rsplitUnderscore (front ++ '_' :: back) = some (front, back)
  | [] => by
      rw [List.nil_append, rsplitUnderscore, rsplitUnderscore_none h]
      exact if_pos rfl
  | c :: front => by
      rw [List.cons_append, rsplitUnderscore, rsplitUnderscore_append h front]

theorem eq_of_rsplitUnderscore : ∀ {cs front back : List Char},
    rsplitUnderscore cs = some (front, back) → cs = front ++ '_' :: back
  | [], _, _, h => by cases h
  | c :: rest, front, back, h => by
      unfold rsplitUnderscore at h
      split at h
      next front' back' hrest =>
        cases h
        rw [List.cons_append, ← eq_of_rsplitUnderscore hrest]
      next =>
        split at h
        next hc =>
          cases h
          rw [hc, List.nil_append]
        next => cases h

/-- A name is its two parts with the underscore between them. -/
theorem eq_of_rsplit {name label protocol : String} (h : rsplit name = some (label, protocol)) :
    name = label ++ "_" ++ protocol := by
  obtain ⟨⟨front, back⟩, hparts, heq⟩ := Option.map_eq_some_iff.mp h
  cases heq
  rw [← String.ofList_toList (s := name), eq_of_rsplitUnderscore hparts, String.append_assoc]
  simp

/-- No protocol has an underscore in it. -/
theorem protocol_without_underscore :
    ∀ protocol ∈ cmlTcpProtocols, '_' ∉ protocol.toList := by
  decide +kernel

theorem tagProtocol_mem {tag protocol : String} (h : tagProtocol tag = some protocol) :
    protocol ∈ cmlTcpProtocols := by
  unfold tagProtocol at h
  split at h
  next => cases h
  next group hgroup =>
    dsimp only at h
    split at h
    next hmem => exact Option.some.inj h ▸ hmem
    next => cases h

theorem CmlNode.protocols_mem {node : CmlNode} {protocol : String} (h : protocol ∈ node.protocols) :
    protocol ∈ cmlTcpProtocols := by
  obtain ⟨tag, -, htag⟩ := List.mem_filterMap.mp h
  exact tagProtocol_mem htag

/-- **A name is read back** as the label it has and the protocol. -/
theorem rsplit_portName {label protocol : String} (h : protocol ∈ cmlTcpProtocols) :
    rsplit (portName label protocol) = some (safeLabel label, protocol) := by
  unfold rsplit
  rw [toList_portName, rsplitUnderscore_append (protocol_without_underscore protocol h)]
  simp

/-- The characters of a label, as names have it. -/
theorem safeLabel_nameChars (label : String) :
    ∀ c ∈ (safeLabel label).toList, isNameChar c = true := by
  intro c hc
  unfold safeLabel at hc
  rw [String.toList_ofList] at hc
  obtain ⟨c', -, rfl⟩ := List.mem_map.mp hc
  split
  next hname => exact hname
  next => decide

/-- **A label comes back** as it was iff all of its characters may stand in a name. -/
theorem safeLabel_eq_iff (label : String) :
    safeLabel label = label ↔ ∀ c ∈ label.toList, isNameChar c = true := by
  constructor
  · intro h
    have hchars := safeLabel_nameChars label
    rwa [h] at hchars
  · intro h
    unfold safeLabel
    have hmap : label.toList.map (fun c => if isNameChar c then c else '_') = label.toList := by
      refine (List.map_congr_left fun c hc => ?_).trans (List.map_id _)
      exact if_pos (h c hc)
    rw [hmap, String.ofList_toList]

/-- What is fit to stand in a name stays as it is. -/
theorem safeLabel_safeLabel (label : String) : safeLabel (safeLabel label) = safeLabel label :=
  (safeLabel_eq_iff _).mpr (safeLabel_nameChars label)

theorem safeLabel_given {label : String} (h : label ≠ "") : safeLabel label ≠ "" := by
  intro hempty
  have hlist := congrArg String.toList hempty
  unfold safeLabel at hlist
  rw [String.toList_ofList] at hlist
  exact h (String.toList_eq_nil_iff.mp (List.map_eq_nil_iff.mp hlist))

end CmlCloudManager.ControlPlane
