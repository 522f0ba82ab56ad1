/-
  CmlCloudManager.ControlPlane.TopologyChecksum
  ─────────────────────────────────────────────
  **WHAT THE CHECKSUM OF A TOPOLOGY TELLS.**

  The checksum digests a JSON text with the nodes sorted by their label and the
  links by the end they start at.  Two topologies with the same nodes and links in
  another order should have one checksum.

  The sort is stable and its keys are partial: nodes with one label and links from
  one interface stay in the order they are given in, and the text has them so.

  Main results:
    • `checksum_eq_iff_sameOrder` — two checksums are equal iff version, nodes and
      links are, with the entries of every key in one order,
    • `checksum_canonical_iff`    — the checksum tells whether two topologies are the
      same iff they are not, or agree in the order of the entries of every key.
-/
import CmlCloudManager.ControlPlane.LabRecord
import CmlCloudManager.Foundation.JsonText
import Mathlib.Data.Prod.Lex

namespace CmlCloudManager.ControlPlane

open CmlCloudManager.Foundation CmlCloudManager.Pipeline

/-! ## §1. The text that is digested. -/

/-- What the checksum has of a node. -/
def TopologyNode.entry (n : TopologyNode) : Value × Value × Dict Value.HashKey Value :=
  (n.label, n.nodeDefinition, n.tags)

/-- What the checksum has of a link. -/
def TopologyLink.entry (l : TopologyLink) : Value × Value × Value × Value :=
  (l.sourceNode, l.sourceInterface, l.targetNode, l.targetInterface)

/-- The entry of a node whose fields have their declared types. -/
structure NodeText where
  label : String
  nodeDefinition : String
  tags : Dict String String

/-- The entry of a link whose fields have their declared types. -/
structure LinkText where
  sourceNode : String
  sourceInterface : String
  targetNode : String
  targetInterface : String

/-- The keys and values of the tags. -/
def textTags (tags : Dict String String) : Dict Value.HashKey Value :=
  Dict.ofList (tags.entries.map fun e => (.text e.1, .str e.2))

/-- The entry, as the values it has. -/
def NodeText.entry (n : NodeText) : Value × Value × Dict Value.HashKey Value :=
  (.str n.label, .str n.nodeDefinition, textTags n.tags)

/-- The entry, as the values it has. -/
def LinkText.entry (l : LinkText) : Value × Value × Value × Value :=
  (.str l.sourceNode, .str l.sourceInterface, .str l.targetNode, .str l.targetInterface)

/-- The dict of a node. -/
def NodeText.json (n : NodeText) : Json :=
  .obj (Json.sortKeys [("label", .str n.label), ("node_definition", .str n.nodeDefinition),
    ("tags", .obj (Json.sortKeys (n.tags.entries.map fun e => (e.1, .str e.2))))])

/-- The dict of a link. -/
def LinkText.json (l : LinkText) : Json :=
  .obj (Json.sortKeys [("source_node", .str l.sourceNode),
    ("source_interface", .str l.sourceInterface), ("target_node", .str l.targetNode),
    ("target_interface", .str l.targetInterface)])

/-- `version`, which may be missing. -/
def versionJson : Option String → Json
  | none => .null
  | some version => .str version

/-- `canonical`, whose keys `json.dumps` sorts. -/
def canonicalJson (version : Option String) (nodes : List NodeText) (links : List LinkText) :
    Json :=
  .obj (Json.sortKeys [("version", versionJson version), ("nodes", .arr (nodes.map NodeText.json)),
    ("links", .arr (links.map LinkText.json))])

/-- The checksum is a digest of the JSON text, and no two texts have the same. -/
structure PythonLibrary.DigestsJson (py : PythonLibrary) (digest : String → NewId) : Prop where
  injective : Function.Injective digest
  sha256_eq : ∀ (version : Option String) (nodes : List NodeText) (links : List LinkText),
    py.sha256 ⟨version, nodes.map NodeText.entry, links.map LinkText.entry⟩
      = digest (canonicalJson version nodes links).dumps

/-- The fields of nodes and links have the types they are declared with. -/
structure LabTopologySpec.Declared (spec : LabTopologySpec) : Prop where
  nodes : ∀ n ∈ spec.nodes, ∃ text : NodeText, text.entry = n.entry
  links : ∀ l ∈ spec.links, ∃ text : LinkText, text.entry = l.entry

/-! ## §2. When two topologies are the same. -/

/-- A node as it counts: a dict has no order. -/
def describedNode (entry : Value × Value × Dict Value.HashKey Value) :
    Value × Value × (Value.HashKey → Option Value) :=
  (entry.1, entry.2.1, entry.2.2.get?)

/-- The nodes by label, node definition and tags. -/
def LabTopologySpec.describedNodes (spec : LabTopologySpec) :
    List (Value × Value × (Value.HashKey → Option Value)) :=
  spec.nodes.map fun n => describedNode n.entry

/-- The links by their two ends. -/
def LabTopologySpec.describedLinks (spec : LabTopologySpec) :
    List (Value × Value × Value × Value) :=
  spec.links.map TopologyLink.entry

/-- **The same topology**: the version, and the nodes and the links in any order. -/
structure LabTopologySpec.Same (spec spec' : LabTopologySpec) : Prop where
  version : spec.version = spec'.version
  nodes : spec.describedNodes.Perm spec'.describedNodes
  links : spec.describedLinks.Perm spec'.describedLinks

/-- The label that nodes are sorted by. -/
def nodeKey {γ : Type} (entry : Value × γ) : String := entry.1.pyStr

/-- The end that links are sorted by. -/
def linkKey (entry : Value × Value × Value × Value) : String ×ₗ String :=
  toLex (entry.1.pyStr, entry.2.1.pyStr)

/-- **The same order where it counts**: among the nodes with one label, and among the links from one
interface. -/
structure LabTopologySpec.SameOrder (spec spec' : LabTopologySpec) : Prop where
  nodes : ∀ label, ofKey nodeKey label spec.describedNodes
    = ofKey nodeKey label spec'.describedNodes
  links : ∀ start, ofKey linkKey start spec.describedLinks
    = ofKey linkKey start spec'.describedLinks

/-! ## §3. The text tells entries apart. -/

/-- Two functions that tell the same elements apart do so along a list. -/
theorem map_eq_map_iff {α β γ : Type} {f : α → β} {g : α → γ}
    (h : ∀ a b, f a = f b ↔ g a = g b) :
    ∀ xs ys : List α, xs.map f = ys.map f ↔ xs.map g = ys.map g
  | [], [] => iff_of_true rfl rfl
  | [], y :: ys => iff_of_false (List.cons_ne_nil _ _).symm (List.cons_ne_nil _ _).symm
  | x :: xs, [] => iff_of_false (List.cons_ne_nil _ _) (List.cons_ne_nil _ _)
  | x :: xs, y :: ys => by
      rw [List.map_cons, List.map_cons, List.map_cons, List.map_cons, List.cons.injEq,
        List.cons.injEq, h x y, map_eq_map_iff h xs ys]

/-- The entries under a key. -/
theorem ofKey_entries {α : Type} (k : String) :
    ∀ l : List (String × α), (l.map Prod.fst).Nodup →
      ofKey Prod.fst k l = (Dict.lookup k l).toList.map (Prod.mk k)
  | [], _ => rfl
  | (k', v) :: rest, hnodup => by
      obtain ⟨hfresh, hrest⟩ := List.nodup_cons.mp hnodup
      have ih := ofKey_entries k rest hrest
      unfold Dict.lookup
      by_cases hk : k' = k
      · subst hk
        have hnone : ofKey Prod.fst k' rest = [] := by
          refine List.filter_eq_nil_iff.mpr fun e he hsame => hfresh ?_
          exact List.mem_map.mpr ⟨e, he, of_decide_eq_true hsame⟩
        rw [if_pos rfl, ofKey_cons_self (k', v), hnone]
        rfl
      · rw [if_neg hk, ofKey_cons_ne hk, ih]

/-- Two dicts have one sorted text iff they have the same under every key. -/
theorem sortKeys_entries_iff (tags tags' : Dict String String) :
    Json.sortKeys (tags.entries.map fun e => (e.1, .str e.2))
        = Json.sortKeys (tags'.entries.map fun e => (e.1, .str e.2))
      ↔ tags.get? = tags'.get? := by
  have hinj : Function.Injective fun e : String × String => (e.1, Json.str e.2) := by
    rintro ⟨k, v⟩ ⟨k', v'⟩ h
    simpa using h
  have hentries : ∀ (tags : Dict String String) (k : String),
      ofKey Prod.fst k (tags.entries.map fun e => (e.1, Json.str e.2))
        = ((tags.get? k).toList.map (Prod.mk k)).map fun e => (e.1, Json.str e.2) := by
    intro tags k
    rw [Dict.get?, ← ofKey_entries k _ tags.nodup]
    exact (map_ofKey (fun _ => rfl) k _).symm
  have hget : ∀ k, ofKey Prod.fst k (tags.entries.map fun e => (e.1, Json.str e.2))
        = ofKey Prod.fst k (tags'.entries.map fun e => (e.1, Json.str e.2))
      ↔ tags.get? k = tags'.get? k := by
    intro k
    rw [hentries, hentries, hinj.list_map.eq_iff, (Prod.mk_right_injective k).list_map.eq_iff]
    cases tags.get? k <;> cases tags'.get? k <;> simp
  rw [Json.sortKeys, Json.sortKeys, sortByKey_eq_iff, funext_iff]
  exact forall_congr' hget

theorem lookup_textEntries (s : String) :
    ∀ l : List (String × String),
      Dict.lookup (.text s) (l.map fun e => (Value.HashKey.text e.1, Value.str e.2))
        = (Dict.lookup s l).map Value.str
  | [] => rfl
  | (k, v) :: rest => by
      rw [List.map_cons, Dict.lookup, Dict.lookup, lookup_textEntries s rest]
      by_cases hk : k = s
      · rw [if_pos hk, if_pos (congrArg _ hk)]
        rfl
      · rw [if_neg hk, if_neg fun h => hk (Value.HashKey.text.inj h)]

theorem lookup_textEntries_none {key : Value.HashKey} (hkey : ∀ s, key ≠ .text s) :
    ∀ l : List (String × String),
      Dict.lookup key (l.map fun e => (Value.HashKey.text e.1, Value.str e.2)) = none
  | [] => rfl
  | (k, v) :: rest => by
      rw [List.map_cons, Dict.lookup, if_neg (hkey k).symm, lookup_textEntries_none hkey rest]

theorem textTags_entries (tags : Dict String String) :
    (textTags tags).entries = tags.entries.map fun e => (.text e.1, .str e.2) := by
  refine Dict.entries_ofList ?_
  have hkeys : (tags.entries.map fun e => (Value.HashKey.text e.1, Value.str e.2)).map Prod.fst
      = (tags.entries.map Prod.fst).map Value.HashKey.text := by
    rw [List.map_map, List.map_map]
    rfl
  rw [hkeys]
  exact tags.nodup.map fun _ _ => Value.HashKey.text.inj

/-- The tags as values tell the same apart. -/
theorem textTags_get_iff (tags tags' : Dict String String) :
    (textTags tags).get? = (textTags tags').get? ↔ tags.get? = tags'.get? := by
  have htext : ∀ (tags : Dict String String) (s : String),
      (textTags tags).get? (.text s) = (tags.get? s).map Value.str := by
    intro tags s
    rw [Dict.get?, textTags_entries, lookup_textEntries]
    rfl
  have hother : ∀ (tags : Dict String String) {key : Value.HashKey}, (∀ s, key ≠ .text s) →
      (textTags tags).get? key = none := by
    intro tags key hkey
    rw [Dict.get?, textTags_entries, lookup_textEntries_none hkey]
  constructor
  · intro h
    funext s
    have hs := congrFun h (.text s)
    rw [htext, htext] at hs
    exact Option.map_injective (fun _ _ => Value.str.inj) hs
  · intro h
    funext key
    cases key with
    | text s => rw [htext, htext, h]
    | none | num n => rw [hother tags (by simp), hother tags' (by simp)]

/-- **Two nodes** have one JSON text iff they have label, definition and tags in common. -/
theorem nodeJson_iff (n n' : NodeText) :
    n.json = n'.json ↔ describedNode n.entry = describedNode n'.entry := by
  unfold NodeText.json describedNode NodeText.entry
  dsimp only
  rw [Prod.mk.injEq, Prod.mk.injEq, Value.str.injEq, Value.str.injEq, textTags_get_iff,
    ← sortKeys_entries_iff]
  constructor
  · intro h
    have hmembers := Json.sortKeys_inj (Json.obj.inj h) rfl
    simpa using hmembers
  · rintro ⟨hlabel, hdefinition, htags⟩
    rw [hlabel, hdefinition, htags]

/-- **Two links** have one JSON text iff they have both ends in common. -/
theorem linkJson_iff (l l' : LinkText) : l.json = l'.json ↔ l.entry = l'.entry := by
  unfold LinkText.json LinkText.entry
  rw [Prod.mk.injEq, Prod.mk.injEq, Prod.mk.injEq, Value.str.injEq, Value.str.injEq,
    Value.str.injEq, Value.str.injEq]
  constructor
  · intro h
    have hmembers := Json.sortKeys_inj (Json.obj.inj h) rfl
    simpa using hmembers
  · rintro ⟨h1, h2, h3, h4⟩
    rw [h1, h2, h3, h4]

theorem versionJson_injective : Function.Injective versionJson := by
  rintro (_ | version) (_ | version') h
  · rfl
  · cases h
  · cases h
  · exact congrArg some (Json.str.inj h)

theorem canonicalJson_iff (version version' : Option String) (nodes nodes' : List NodeText)
    (links links' : List LinkText) :
    canonicalJson version nodes links = canonicalJson version' nodes' links'
      ↔ version = version'
        ∧ nodes.map (fun n => describedNode n.entry) = nodes'.map (fun n => describedNode n.entry)
        ∧ links.map LinkText.entry = links'.map LinkText.entry := by
  rw [← map_eq_map_iff nodeJson_iff, ← map_eq_map_iff linkJson_iff]
  unfold canonicalJson
  constructor
  · intro h
    have hmembers := Json.sortKeys_inj (Json.obj.inj h) rfl
    simp only [List.cons.injEq, Prod.mk.injEq, true_and, and_true, Json.arr.injEq] at hmembers
    exact ⟨versionJson_injective hmembers.1, hmembers.2⟩
  · rintro ⟨hversion, hnodes, hlinks⟩
    rw [hversion, hnodes, hlinks]

/-! ## §4. The checksum. -/

/-- The texts of values that are all texts. -/
theorem exists_texts {α β γ : Type} {f : β → γ} {g : α → γ} :
    ∀ {xs : List α}, (∀ x ∈ xs, ∃ t, f t = g x) → ∃ ts : List β, ts.map f = xs.map g
  | [], _ => ⟨[], rfl⟩
  | x :: xs, h => by
      obtain ⟨t, ht⟩ := h x List.mem_cons_self
      obtain ⟨ts, hts⟩ := exists_texts fun y hy => h y (List.mem_cons_of_mem _ hy)
      exact ⟨t :: ts, by rw [List.map_cons, List.map_cons, ht, hts]⟩

/-- The nodes and the links as they are digested. -/
theorem canonical_eq (spec : LabTopologySpec) :
    spec.canonical = ⟨spec.version, sortByKey nodeKey (spec.nodes.map TopologyNode.entry),
      sortByKey linkKey (spec.links.map TopologyLink.entry)⟩ := by
  unfold LabTopologySpec.canonical sortByKey
  congr 1
  · refine List.map_mergeSort fun a _ b _ => decide_eq_decide.mpr ?_
    exact (not_lt : ¬ b.label.pyStr < a.label.pyStr ↔ a.label.pyStr ≤ b.label.pyStr)
  · refine List.map_mergeSort fun a _ b _ => decide_eq_decide.mpr ?_
    have hle : ¬ b.sourceInterface.pyStr < a.sourceInterface.pyStr
        ↔ a.sourceInterface.pyStr ≤ b.sourceInterface.pyStr := not_lt
    have hlex : linkKey a.entry ≤ linkKey b.entry
        ↔ a.sourceNode.pyStr < b.sourceNode.pyStr ∨ a.sourceNode.pyStr = b.sourceNode.pyStr
          ∧ a.sourceInterface.pyStr ≤ b.sourceInterface.pyStr := Prod.Lex.toLex_le_toLex
    rw [hle]
    exact hlex.symm

variable {py : PythonLibrary} {digest : String → NewId} {spec spec' : LabTopologySpec}

/-- The checksum of a topology whose entries are texts. -/
theorem checksum_eq (hpy : py.DigestsJson digest) {nodes : List NodeText} {links : List LinkText}
    (hnodes : nodes.map NodeText.entry = spec.nodes.map TopologyNode.entry)
    (hlinks : links.map LinkText.entry = spec.links.map TopologyLink.entry) :
    spec.checksum py
      = digest (canonicalJson spec.version (sortByKey (fun n => nodeKey n.entry) nodes)
          (sortByKey (fun l => linkKey l.entry) links)).dumps := by
  unfold LabTopologySpec.checksum
  rw [canonical_eq, ← hnodes, ← hlinks, ← map_sortByKey (fun _ => rfl) nodes,
    ← map_sortByKey (fun _ => rfl) links, hpy.sha256_eq]

/-- **What a checksum tells**: two of them are equal iff version, nodes and links are, with the
entries of every key in one order. -/
theorem checksum_eq_iff_sameOrder (hpy : py.DigestsJson digest) (h : spec.Declared)
    (h' : spec'.Declared) :
    spec.checksum py = spec'.checksum py
      ↔ spec.version = spec'.version ∧ spec.SameOrder spec' := by
  obtain ⟨nodes, hnodes⟩ := exists_texts h.nodes
  obtain ⟨links, hlinks⟩ := exists_texts h.links
  obtain ⟨nodes', hnodes'⟩ := exists_texts h'.nodes
  obtain ⟨links', hlinks'⟩ := exists_texts h'.links
  have hdescribed : ∀ {spec : LabTopologySpec} {nodes : List NodeText},
      nodes.map NodeText.entry = spec.nodes.map TopologyNode.entry →
      nodes.map (fun n => describedNode n.entry) = spec.describedNodes := by
    intro spec nodes hnodes
    have := congrArg (List.map describedNode) hnodes
    rwa [List.map_map, List.map_map] at this
  have hsortedNodes := map_sortByKey_eq_iff nodeKey (fun n : NodeText => describedNode n.entry)
    nodes nodes'
  have hsortedLinks := map_sortByKey_eq_iff linkKey LinkText.entry links links'
  rw [hdescribed hnodes, hdescribed hnodes'] at hsortedNodes
  rw [hlinks, hlinks'] at hsortedLinks
  rw [checksum_eq hpy hnodes hlinks, checksum_eq hpy hnodes' hlinks',
    Subtype.val_injective.eq_iff, hpy.injective.eq_iff, Json.dumps_injective.eq_iff,
    canonicalJson_iff]
  refine and_congr_right fun _ => ?_
  refine (and_congr hsortedNodes hsortedLinks).trans ?_
  exact ⟨fun h => ⟨h.1, h.2⟩, fun h => ⟨h.nodes, h.links⟩⟩

/-- Lists that agree in the order of every key are the same up to order. -/
theorem LabTopologySpec.SameOrder.same (h : spec.SameOrder spec')
    (hversion : spec.version = spec'.version) : spec.Same spec' :=
  ⟨hversion, perm_of_ofKey h.nodes, perm_of_ofKey h.links⟩

/-- Where every node has a label and every link a start of its own, the order of a topology does not
count. -/
theorem LabTopologySpec.Same.sameOrder (h : spec.Same spec')
    (hlabels : (spec.describedNodes.map nodeKey).Nodup)
    (hstarts : (spec.describedLinks.map linkKey).Nodup) : spec.SameOrder spec' :=
  ⟨ofKey_eq_of_perm h.nodes hlabels, ofKey_eq_of_perm h.links hstarts⟩

/-- **The checksum as a canonical form**: of two topologies it tells whether they are the same iff
they are not, or have the entries of every key in one order. -/
theorem checksum_canonical_iff (hpy : py.DigestsJson digest) (h : spec.Declared)
    (h' : spec'.Declared) :
    (spec.checksum py = spec'.checksum py ↔ spec.Same spec')
      ↔ (spec.Same spec' → spec.SameOrder spec') := by
  rw [checksum_eq_iff_sameOrder hpy h h']
  constructor
  · intro hiff hsame
    exact (hiff.mpr hsame).2
  · intro horder
    constructor
    · rintro ⟨hversion, hsameOrder⟩
      exact hsameOrder.same hversion
    · exact fun hsame => ⟨hsame.version, horder hsame⟩

/-! ## §5. Two nodes with one label. -/

/-- The text of a value that is one. -/
def textOf : Value → String
  | .str s => s
  | _ => ""

/-- The text of a key that is one. -/
def keyText : Value.HashKey → String
  | .text s => s
  | _ => ""

/-- The node of an entry. -/
def NodeText.ofEntry (entry : Value × Value × Dict Value.HashKey Value) : NodeText where
  label := textOf entry.1
  nodeDefinition := textOf entry.2.1
  tags := Dict.ofList (entry.2.2.entries.map fun e => (keyText e.1, textOf e.2))

/-- The link of an entry. -/
def LinkText.ofEntry (entry : Value × Value × Value × Value) : LinkText where
  sourceNode := textOf entry.1
  sourceInterface := textOf entry.2.1
  targetNode := textOf entry.2.2.1
  targetInterface := textOf entry.2.2.2

theorem ofEntry_entry (n : NodeText) : NodeText.ofEntry n.entry = n := by
  have htags : (textTags n.tags).entries.map (fun e => (keyText e.1, textOf e.2))
      = n.tags.entries := by
    rw [textTags_entries, List.map_map]
    exact List.map_id _
  unfold NodeText.ofEntry NodeText.entry
  dsimp only
  rw [htags, Dict.ofList_entries]
  rfl

/-- A digest that keeps the whole text. -/
def plainDigest (text : String) : NewId :=
  ⟨"#" ++ text, by
    intro h
    have := congrArg String.length h
    simp at this⟩

/-- A library that reads no dates and digests every topology to its text. -/
def textPython : PythonLibrary where
  fromIsoFormat := fun _ => none
  sha256 := fun c =>
    plainDigest (canonicalJson c.version (c.nodes.map NodeText.ofEntry)
      (c.links.map LinkText.ofEntry)).dumps

theorem textPython_digestsJson : textPython.DigestsJson plainDigest := by
  constructor
  · intro text text' h
    have hval : ("#" ++ text).toList = ("#" ++ text').toList :=
      congrArg String.toList (congrArg Subtype.val h)
    rw [String.toList_append, String.toList_append] at hval
    exact String.toList_inj.mp (List.append_cancel_left hval)
  · intro version nodes links
    have hnodes : (nodes.map NodeText.entry).map NodeText.ofEntry = nodes := by
      rw [List.map_map]
      exact (List.map_congr_left fun n _ => ofEntry_entry n).trans (List.map_id nodes)
    have hlinks : (links.map LinkText.entry).map LinkText.ofEntry = links := by
      rw [List.map_map]
      exact List.map_id links
    show plainDigest (canonicalJson version ((nodes.map NodeText.entry).map NodeText.ofEntry)
      ((links.map LinkText.entry).map LinkText.ofEntry)).dumps = _
    rw [hnodes, hlinks]

/-- A node without tags. -/
def untagged (label nodeDefinition : String) : TopologyNode where
  label := .str label
  nodeDefinition := .str nodeDefinition

/-- A topology of such nodes, by label and definition. -/
def untaggedLab (nodes : List (String × String)) : LabTopologySpec where
  nodes := nodes.map fun n => untagged n.1 n.2

theorem untaggedLab_declared (nodes : List (String × String)) : (untaggedLab nodes).Declared := by
  refine ⟨?_, fun l hl => absurd hl List.not_mem_nil⟩
  intro n hn
  obtain ⟨⟨label, nodeDefinition⟩, -, rfl⟩ := List.mem_map.mp hn
  exact ⟨⟨label, nodeDefinition, Dict.empty⟩, rfl⟩

/-- A router and a switch that were given one label. -/
def twins : LabTopologySpec := untaggedLab [("r1", "iosv"), ("r1", "iosvl2")]

/-- The same, listed the other way round. -/
def twinsReversed : LabTopologySpec := untaggedLab [("r1", "iosvl2"), ("r1", "iosv")]


/-- The two lists have one multiset of nodes, and two checksums. -/
theorem node_order_changes_checksum :
    ¬ ∀ (py : PythonLibrary) (digest : String → NewId), py.DigestsJson digest →
      ∀ spec spec' : LabTopologySpec, spec.Declared → spec'.Declared →
        (spec.checksum py = spec'.checksum py ↔ spec.Same spec') := by
  intro h
  have hsame : twins.Same twinsReversed := ⟨rfl, List.Perm.swap .., List.Perm.refl _⟩
  have hchecksum := (h textPython plainDigest textPython_digestsJson twins twinsReversed
    (untaggedLab_declared _) (untaggedLab_declared _)).mpr hsame
  obtain ⟨-, horder⟩ := (checksum_eq_iff_sameOrder textPython_digestsJson
    (untaggedLab_declared _) (untaggedLab_declared _)).mp hchecksum
  have hnodes := horder.nodes "r1"
  have hfirst := congrArg (fun l => l.head?.map fun n => textOf n.2.1) hnodes
  revert hfirst
  decide +kernel

/-- Two routers. -/
def neighbours : LabTopologySpec := untaggedLab [("r1", "iosv"), ("r2", "iosv")]

/-- The same, listed the other way round. -/
def neighboursReversed : LabTopologySpec := untaggedLab [("r2", "iosv"), ("r1", "iosv")]

/-- Nodes with labels of their own may be listed in any order. -/
theorem labelled_order_kept :
    neighbours.checksum textPython = neighboursReversed.checksum textPython
      ↔ neighbours.Same neighboursReversed :=
  (checksum_canonical_iff textPython_digestsJson (untaggedLab_declared _)
    (untaggedLab_declared _)).mpr fun hsame =>
      hsame.sameOrder (by decide +kernel) (by decide +kernel)

end CmlCloudManager.ControlPlane
