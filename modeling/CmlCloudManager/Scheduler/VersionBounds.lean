/-
  CmlCloudManager.Scheduler.VersionBounds
  ───────────────────────────────────────
  **THE VERSIONS A DEFINITION ASKS FOR.**

  `_check_ami_requirements` compares versions as texts.  Of requirements whose bounds
  are versions it is said here

    • what they mean: the numbers of the version lie between those of the bounds
      (`WithinBounds`),
    • what the check makes of them: the same with the order of the texts
      (`checkAmiRequirements_iff`),
    • for which requirements that comes to the same: those of `BoundsAgree`, where no
      bound is misordered with the version, or where the verdict is the same all the
      same.
-/
import CmlCloudManager.Foundation.DottedNumerals
import CmlCloudManager.Scheduler.PlacementCorrectness

namespace CmlCloudManager.Scheduler

open CmlCloudManager.Foundation
open CmlCloudManager.ControlPlane

/-! ## §1. The requirements. -/

/-- `AmiRequirement`. -/
structure AmiRequirement where
  cmlVersionMin : Option String := none
  cmlVersionMax : Option String := none
  nodeDefinitionsRequired : List String := []

namespace AmiRequirement

/-- `AmiRequirement.matches_version`. -/
def matchesVersion (r : AmiRequirement) (version : String) : Bool :=
  let tooLow :=
    match givenText r.cmlVersionMin with
    | some minVersion => decide (version < minVersion)
    | none => false
  let tooHigh :=
    match givenText r.cmlVersionMax with
    | some maxVersion => decide (maxVersion < version)
    | none => false
  if tooLow then false else if tooHigh then false else true

/-- `AmiRequirement.to_dict`. -/
def toDict (r : AmiRequirement) : AmiRequirementDict where
  cmlVersionMin := r.cmlVersionMin
  cmlVersionMax := r.cmlVersionMax
  nodeDefinitionsRequired := r.nodeDefinitionsRequired

end AmiRequirement

/-- A requirement whose bounds are versions. -/
structure VersionRange where
  min : Option Version := none
  max : Option Version := none
  nodeDefinitionsRequired : List String := []

/-- As it is written. -/
def VersionRange.requirement (r : VersionRange) : AmiRequirement where
  cmlVersionMin := r.min.map Version.text
  cmlVersionMax := r.max.map Version.text
  nodeDefinitionsRequired := r.nodeDefinitionsRequired

/-- The worker whose CML has the version. -/
def WorkerDict.withVersion (worker : WorkerDict) (version : Version) : WorkerDict :=
  { worker with metricsVersion := some version.text }

/-- The definition with the requirements. -/
def DefinitionDict.withRanges (definition : DefinitionDict) (ranges : List VersionRange) :
    DefinitionDict :=
  { definition with
    resourceRequirements :=
      { definition.resourceRequirements with
        amiRequirements := ranges.map fun r => r.requirement.toDict } }

/-- The node definitions of all requirements are there. -/
def NodesAvailable (worker : WorkerDict) (ranges : List VersionRange) : Prop :=
  ∀ r ∈ ranges, ∀ node ∈ r.nodeDefinitionsRequired, node ∈ worker.nodeDefinitions

/-- What the requirements mean. -/
def WithinBounds (worker : WorkerDict) (version : Version) (ranges : List VersionRange) : Prop :=
  (∀ r ∈ ranges, (∀ low ∈ r.min, ¬version.Before low) ∧ ∀ high ∈ r.max, ¬high.Before version)
    ∧ NodesAvailable worker ranges

/-! ## §2. What the check makes of them. -/

theorem givenText_map_text (bound : Option Version) :
    givenText (bound.map Version.text) = bound.map Version.text := by
  cases bound with
  | none => rfl
  | some v => exact givenText_some v.text_ne_empty

/-- The engine's condition on the version is that of the value object. -/
theorem amiRequirementMet_eq_matchesVersion (worker : WorkerDict) (version : Version)
    (r : AmiRequirement) :
    amiRequirementMet (worker.withVersion version) r.toDict
      = (r.matchesVersion version.text
        && r.nodeDefinitionsRequired.all fun node => worker.nodeDefinitions.contains node) := by
  have hversion : givenText (worker.withVersion version).metricsVersion = some version.text :=
    givenText_some version.text_ne_empty
  unfold amiRequirementMet AmiRequirement.matchesVersion AmiRequirement.toDict
  dsimp only
  rw [hversion]
  generalize givenText r.cmlVersionMin = low
  generalize givenText r.cmlVersionMax = high
  cases low with
  | none =>
      cases high with
      | none => rfl
      | some high => by_cases hhigh : high < version.text <;> simp [hhigh, WorkerDict.withVersion]
  | some low =>
      cases high with
      | none => by_cases hlow : version.text < low <;> simp [hlow, WorkerDict.withVersion]
      | some high =>
          by_cases hlow : version.text < low <;> by_cases hhigh : high < version.text <;>
            simp [hlow, hhigh, WorkerDict.withVersion]

/-- The bounds as pairs that must not be in order: the version and a lower bound, an upper
bound and the version. -/
def boundPairs (version : Version) (ranges : List VersionRange) : List (Version × Version) :=
  ranges.flatMap fun r =>
    (r.min.map fun low => (version, low)).toList ++ (r.max.map fun high => (high, version)).toList

theorem forall_boundPairs (P : Version → Version → Prop) (version : Version)
    (ranges : List VersionRange) :
    (∀ p ∈ boundPairs version ranges, P p.1 p.2)
      ↔ ∀ r ∈ ranges, (∀ low ∈ r.min, P version low) ∧ ∀ high ∈ r.max, P high version := by
  unfold boundPairs
  rw [List.forall_mem_flatMap]
  refine forall₂_congr fun r _ => ?_
  rw [List.forall_mem_append]
  refine and_congr ?_ ?_
  · cases r.min with
    | none => simp
    | some low => simp
  · cases r.max with
    | none => simp
    | some high => simp

/-- A version matches a requirement when the order of the texts says so. -/
theorem matchesVersion_iff (version : Version) (r : VersionRange) :
    r.requirement.matchesVersion version.text = true
      ↔ (∀ low ∈ r.min, ¬version.text < low.text) ∧ ∀ high ∈ r.max, ¬high.text < version.text := by
  unfold AmiRequirement.matchesVersion VersionRange.requirement
  dsimp only
  rw [givenText_map_text, givenText_map_text]
  cases r.min with
  | none =>
      cases r.max with
      | none => simp
      | some high => simp
  | some low =>
      cases r.max with
      | none => simp
      | some high => simp

/-- **The check compares texts.** -/
theorem checkAmiRequirements_iff (worker : WorkerDict) (definition : DefinitionDict)
    (version : Version) (ranges : List VersionRange) :
    checkAmiRequirements (worker.withVersion version) (definition.withRanges ranges) = true
      ↔ (∀ p ∈ boundPairs version ranges, ¬p.1.text < p.2.text)
        ∧ NodesAvailable worker ranges := by
  rw [forall_boundPairs fun a b => ¬a.text < b.text]
  unfold checkAmiRequirements DefinitionDict.withRanges NodesAvailable
  rw [List.all_map, List.all_eq_true, ← forall₂_and]
  refine forall₂_congr fun r _ => ?_
  rw [Function.comp_apply, amiRequirementMet_eq_matchesVersion, Bool.and_eq_true,
    matchesVersion_iff, List.all_eq_true]
  refine and_congr_right fun _ => forall₂_congr fun node _ => ?_
  exact List.contains_iff_mem

/-! ## §3. Where it comes to the same. -/

/-- No bound is misordered with the version; or some node definition is missing; or a bound
that is not misordered is missed; or one misordered bound is missed and another one is
kept. -/
def BoundsAgree (worker : WorkerDict) (version : Version) (ranges : List VersionRange) : Prop :=
  (∀ p ∈ boundPairs version ranges, ¬Misordered p.1.components p.2.components)
    ∨ ¬NodesAvailable worker ranges
    ∨ (∃ p ∈ boundPairs version ranges,
        p.1.Before p.2 ∧ ¬Misordered p.1.components p.2.components)
    ∨ ((∃ p ∈ boundPairs version ranges,
          p.1.Before p.2 ∧ Misordered p.1.components p.2.components)
        ∧ ∃ p ∈ boundPairs version ranges,
          ¬p.1.Before p.2 ∧ Misordered p.1.components p.2.components)

/-- Two tests that reject entries of a list reject the same lists when they agree on every
entry, or both reject one, or each of them rejects one. -/
theorem same_verdict_iff {α : Type} {P Q : α → Prop} (entries : List α) :
    ((∀ a ∈ entries, ¬P a) ↔ ∀ a ∈ entries, ¬Q a)
      ↔ (∀ a ∈ entries, P a ↔ Q a)
        ∨ (∃ a ∈ entries, Q a ∧ (P a ↔ Q a))
        ∨ ((∃ a ∈ entries, Q a ∧ ¬(P a ↔ Q a)) ∧ ∃ a ∈ entries, ¬Q a ∧ ¬(P a ↔ Q a)) := by
  constructor
  · intro hsame
    by_cases hrejected : ∃ a ∈ entries, P a
    · obtain ⟨a, ha, hPa⟩ := hrejected
      obtain ⟨b, hb, hQb⟩ : ∃ b ∈ entries, Q b := by
        by_contra hnone
        push Not at hnone
        exact hsame.mpr hnone a ha hPa
      by_cases hQa : Q a
      · exact .inr (.inl ⟨a, ha, hQa, iff_of_true hPa hQa⟩)
      by_cases hPb : P b
      · exact .inr (.inl ⟨b, hb, hQb, iff_of_true hPb hQb⟩)
      exact .inr (.inr ⟨⟨b, hb, hQb, fun h => hPb (h.mpr hQb)⟩, a, ha, hQa,
        fun h => hQa (h.mp hPa)⟩)
    · push Not at hrejected
      exact .inl fun a ha => iff_of_false (hrejected a ha) (hsame.mp hrejected a ha)
  · rintro (hagree | ⟨a, ha, hQa, hiff⟩ | ⟨⟨b, hb, hQb, -⟩, a, ha, hQa, hiff⟩)
    · exact forall₂_congr fun a ha => not_congr (hagree a ha)
    · exact iff_of_false (fun h => h a ha (hiff.mpr hQa)) fun h => h a ha hQa
    · have hPa : P a := by
        by_contra hPa
        exact hiff (iff_of_false hPa hQa)
      exact iff_of_false (fun h => h a ha hPa) fun h => h b hb hQb

/-- A misordered pair, by the two orders. -/
theorem misordered_pair_iff (v w : Version) :
    Misordered v.components w.components ↔ ¬(v.text < w.text ↔ v.Before w) := by
  rw [misordered_iff, text_lt_iff]
  exact Iff.rfl

/-- **The check is right about the versions exactly when the bounds agree.** -/
theorem version_bounds_iff (worker : WorkerDict) (definition : DefinitionDict)
    (version : Version) (ranges : List VersionRange) :
    (checkAmiRequirements (worker.withVersion version) (definition.withRanges ranges) = true
        ↔ WithinBounds worker version ranges)
      ↔ BoundsAgree worker version ranges := by
  unfold WithinBounds BoundsAgree
  rw [checkAmiRequirements_iff, ← forall_boundPairs fun a b => ¬a.Before b]
  simp only [misordered_pair_iff, not_not]
  by_cases hnodes : NodesAvailable worker ranges
  · simp only [hnodes, and_true, not_true_eq_false, false_or]
    exact same_verdict_iff (boundPairs version ranges)
  · simp only [hnodes, and_false, not_false_eq_true, true_or, or_true]

/-- **Bounds whose components have as many digits as those of the version** are what the
check gets right. -/
theorem checkAmiRequirements_iff_withinBounds {worker : WorkerDict} {definition : DefinitionDict}
    {version : Version} {ranges : List VersionRange}
    (hcanonical : ∀ p ∈ boundPairs version ranges,
      (∀ n ∈ p.1.components, n.Canonical) ∧ ∀ m ∈ p.2.components, m.Canonical)
    (hlengths : ∀ p ∈ boundPairs version ranges,
      ∀ n ∈ p.1.components, ∀ m ∈ p.2.components, n.digits.length = m.digits.length) :
    checkAmiRequirements (worker.withVersion version) (definition.withRanges ranges) = true
      ↔ WithinBounds worker version ranges := by
  unfold WithinBounds
  rw [checkAmiRequirements_iff, ← forall_boundPairs fun a b => ¬a.Before b]
  refine and_congr_left fun _ => forall₂_congr fun p hp => not_congr ?_
  by_contra hmisordered
  obtain ⟨hcanonical₁, hcanonical₂⟩ := hcanonical p hp
  obtain ⟨n, hn, m, hm, hne, -⟩ := exists_reversed_of_misordered hcanonical₁ hcanonical₂
    ((misordered_pair_iff p.1 p.2).mpr hmisordered)
  exact hne (hlengths p hp n hn m hm)

/-! ## §4. A tenth minor version. -/

/-- A numeral of one digit, or of two. -/
def numeral0 : Numeral := ⟨['0'], List.cons_ne_nil _ _, List.all_eq_true.mp rfl⟩

def numeral2 : Numeral := ⟨['2'], List.cons_ne_nil _ _, List.all_eq_true.mp rfl⟩

def numeral9 : Numeral := ⟨['9'], List.cons_ne_nil _ _, List.all_eq_true.mp rfl⟩

def numeral10 : Numeral := ⟨['1', '0'], List.cons_ne_nil _ _, List.all_eq_true.mp rfl⟩

/-- `2.10.0`. -/
def version2100 : Version := ⟨[numeral2, numeral10, numeral0], List.cons_ne_nil _ _⟩

/-- `2.9.0`. -/
def version290 : Version := ⟨[numeral2, numeral9, numeral0], List.cons_ne_nil _ _⟩

/-- A worker with 2.10.0 has more than the 2.9.0 that is asked for, and is refused. -/
theorem newer_version_refused :
    WithinBounds (runningWorker {}) version2100 [{ min := some version290 }]
      ∧ checkAmiRequirements ((runningWorker {}).withVersion version2100)
          (DefinitionDict.withRanges {} [{ min := some version290 }]) = false := by
  constructor
  · constructor
    · rw [← forall_boundPairs fun a b => ¬a.Before b]
      decide
    · intro r hr node hnode
      obtain rfl := List.mem_singleton.mp hr
      cases hnode
  · rw [Bool.eq_false_iff]
    intro haccepted
    obtain ⟨hbounds, -⟩ := (checkAmiRequirements_iff _ _ _ _).mp haccepted
    refine hbounds (version2100, version290) List.mem_cons_self ?_
    rw [text_lt_iff]
    decide

end CmlCloudManager.Scheduler
