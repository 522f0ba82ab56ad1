/-
  CmlCloudManager.Core.PodType
  ────────────────────────────
  **POD TYPES AND THEIR DETECTION.**

  A content package targets one infrastructure platform.  Which one is read off
  the package, in a fixed order of priority:

    1. the `pod_type` its manifest declares (a declaration that names no platform
       ends the search),
    2. the topology files, one platform after the other.

  A package with neither is indeterminate.
-/
import CmlCloudManager.Pipeline.Value

namespace CmlCloudManager.Core

open CmlCloudManager.Foundation
open CmlCloudManager.Pipeline

/-! ## §1. The platforms. -/

/-- `PodType`. -/
inductive PodType where
  | cmlOnAws
  | rocRadkit
  | proxmox
  | vmware
  deriving DecidableEq, Repr

/-- The value of a pod type. -/
def PodType.value : PodType → String
  | .cmlOnAws => "cml_on_aws"
  | .rocRadkit => "roc_radkit"
  | .proxmox => "proxmox"
  | .vmware => "vmware"

/-- The pod types, in the order of their definition. -/
def podTypes : List PodType := [.cmlOnAws, .rocRadkit, .proxmox, .vmware]

/-- `str.lower`, as far as the result is ASCII: the Kelvin sign becomes a plain `k`. -/
def lowerAscii (value : String) : String :=
  String.ofList (value.toList.map fun c => if c.toNat = 0x212a then 'k' else c.toLower)

/-- `PodType(value)`, in any case. -/
def PodType.parse (value : String) : Option PodType :=
  podTypes.find? fun t => t.value == lowerAscii value

/-! ## §2. The detector. -/

/-- An opened package: the paths it has, and what its YAML documents read as (nothing where
the document cannot be read). -/
structure Package where
  has : String → Bool
  yaml : String → Option Value

/-- `_MANIFEST_PATH`. -/
def manifestPath : String := "PAv1/manifest.yaml"

/-- `_TOPOLOGY_PRIORITY`. -/
def topologyPriority : List (String × PodType) :=
  [("PAv1/topology/radkit.yaml", .rocRadkit),
   ("PAv1/topology/proxmox.yaml", .proxmox),
   ("PAv1/topology/vmware.yaml", .vmware),
   ("PAv1/topology/cml.yaml", .cmlOnAws),
   ("PAv1/topology/cml.yml", .cmlOnAws),
   ("cml.yaml", .cmlOnAws),
   ("cml.yml", .cmlOnAws),
   ("radkit.yaml", .rocRadkit)]

/-- `_read_yaml`: what is absent or cannot be parsed reads as nothing. -/
def Package.readYaml (package : Package) (path : String) : Value :=
  if package.has path then (package.yaml path).getD .none else .none

/-- The priorities after the manifest. -/
def detectTopology (package : Package) :
    List (String × PodType) → List String → Except (List String) (PodType × List String)
  | [], signals => .error signals
  | (path, podType) :: rest, signals =>
      if package.has path then
        .ok (podType, signals ++ [path ++ ": present -> " ++ podType.value])
      else detectTopology package rest (signals ++ [path ++ ": absent"])

/-- `PodTypeDetector.detect`: the pod type with the signals considered; only these where it is
indeterminate. -/
def detect (package : Package) : Except (List String) (PodType × List String) :=
  match package.readYaml manifestPath with
  | .none => detectTopology package topologyPriority []
  | manifest =>
      let signals := [manifestPath ++ ": present"]
      let declared := match manifest with
        | .dict kvs => (Dict.lookup "pod_type" kvs).getD .none
        | _ => .none
      if declared.truthy then
        let signals := signals ++ [manifestPath ++ ": pod_type=" ++ declared.pyStr]
        let parsed := match declared with
          | .str s => PodType.parse s
          | _ => none
        match parsed with
        | some podType => .ok (podType, signals)
        -- the topology files are not looked at
        | none => .error (signals ++ ["invalid pod_type '" ++ declared.pyStr ++ "'"])
      else detectTopology package topologyPriority signals

end CmlCloudManager.Core
