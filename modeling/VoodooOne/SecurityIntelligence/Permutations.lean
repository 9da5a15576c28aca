import VoodooOne.SecurityIntelligence.FailsClosed

/-!
# Normalization and order

Skills that differ in the order of their lists are normalized to results of one identity, and no
capability is lost, as long as the ids of the capabilities are distinct.
-/

namespace VoodooOne.SecurityIntelligence

variable {sha256 : Sha256}

/-- Capabilities that differ in the order of their constraints and evidence only. -/
structure ExternalCapability.Reordered (left right : ExternalCapability) : Prop where
  same : right = { left with
    sandboxConstraints := right.sandboxConstraints
    evidenceRefs := right.evidenceRefs }
  constraints : left.sandboxConstraints.Perm right.sandboxConstraints
  evidence : left.evidenceRefs.Perm right.evidenceRefs

/-- Skills that differ in the order of their capabilities, mappings, evidence and constraints only.
-/
structure ExternalSkill.Reordered (left right : ExternalSkill) : Prop where
  same : right = { left with
    capabilities := right.capabilities
    frameworkMappings := right.frameworkMappings
    evidenceRefs := right.evidenceRefs }
  capabilities : ∃ middle, List.Forall₂ ExternalCapability.Reordered left.capabilities middle ∧
    middle.Perm right.capabilities
  mappings : left.frameworkMappings.Perm right.frameworkMappings
  evidence : left.evidenceRefs.Perm right.evidenceRefs

namespace ExternalCapability.Reordered

variable {left right : ExternalCapability}

theorem capabilityId (reordered : left.Reordered right) :
    right.capabilityId = left.capabilityId := by
  rw [reordered.same]

theorem wellFormed_iff (reordered : left.Reordered right) : left.WellFormed ↔ right.WellFormed := by
  have constraints (text : String) :=
    reordered.constraints.mem_iff (a := text)
  have evidence (text : String) := reordered.evidence.mem_iff (a := text)
  constructor
  · rintro ⟨id, source, scope, constrained, evidenced⟩
    refine ⟨?_, ?_, ?_, fun text listed => constrained text ((constraints text).mpr listed),
      fun text listed => evidenced text ((evidence text).mpr listed)⟩ <;> rwa [reordered.same]
  · rintro ⟨id, source, scope, constrained, evidenced⟩
    rw [reordered.same] at id source scope
    exact ⟨id, source, scope, fun text listed => constrained text ((constraints text).mp listed),
      fun text listed => evidenced text ((evidence text).mp listed)⟩

theorem unclassifiable_iff (reordered : left.Reordered right) :
    left.Unclassifiable ↔ right.Unclassifiable := by
  have none : left.sandboxConstraints = [] ↔ right.sandboxConstraints = [] := by
    rw [← List.length_eq_zero_iff, ← List.length_eq_zero_iff, reordered.constraints.length_eq]
  have risk : right.riskClass = left.riskClass := by rw [reordered.same]
  have effect : right.effectClass = left.effectClass := by rw [reordered.same]
  simp only [Unclassifiable, risk, effect, ne_eq, none]

theorem normalized_eq (reordered : left.Reordered right) : left.normalized = right.normalized := by
  have constraints := sortedUnique_eq_of_perm reordered.constraints
  have evidence := sortedUnique_eq_of_perm reordered.evidence
  rw [Bool.eq_iff_iff, reordered.same]
  simp only [normalized, Bool.and_eq_true, decide_eq_true_eq, constraints, evidence]

theorem manifestEffect_eq (reordered : left.Reordered right) :
    left.manifestEffect = right.manifestEffect := by
  have constraints := sortedUnique_eq_of_perm reordered.constraints
  rw [reordered.same]
  exact if_congr (and_congr_right fun _ => by rw [constraints]) rfl rfl

theorem manifest_eq (reordered : left.Reordered right) (skillId : String) :
    left.manifest sha256 skillId = right.manifest sha256 skillId := by
  have draft : left.draftManifest sha256 skillId = right.draftManifest sha256 skillId := by
    rw [ExternalCapability.draftManifest, ExternalCapability.draftManifest,
      reordered.manifestEffect_eq, reordered.normalized_eq,
      sortedUnique_eq_of_perm reordered.constraints, sortedUnique_eq_of_perm reordered.evidence,
      reordered.same]
  rw [manifest, manifest, draft]

end ExternalCapability.Reordered

namespace ExternalSkill.Reordered

variable {left right : ExternalSkill}

/-- What does not depend on order holds of all capabilities of one skill when it does of the other.
-/
theorem forall_capabilities (reordered : left.Reordered right) {holds : ExternalCapability → Prop}
    (alike : ∀ {one other : ExternalCapability}, one.Reordered other → (holds one ↔ holds other)) :
    (∀ item ∈ left.capabilities, holds item) ↔ ∀ item ∈ right.capabilities, holds item := by
  obtain ⟨middle, pairs, perm⟩ := reordered.capabilities
  have between : (∀ item ∈ left.capabilities, holds item) ↔ ∀ item ∈ middle, holds item := by
    clear perm
    generalize left.capabilities = items at pairs
    induction pairs with
    | nil => simp
    | cons pair _ induction => rw [List.forall_mem_cons, List.forall_mem_cons, alike pair,
        induction]
  simp only [between, perm.mem_iff]

/-- Reordering a skill does not change whether it is accepted. -/
theorem accepted_iff (reordered : left.Reordered right) : left.Accepted ↔ right.Accepted := by
  obtain ⟨middle, pairs, perm⟩ := reordered.capabilities
  have length : left.capabilities.length = right.capabilities.length :=
    pairs.length_eq.trans perm.length_eq
  have none : left.capabilities = [] ↔ right.capabilities = [] := by
    rw [← List.length_eq_zero_iff, ← List.length_eq_zero_iff, length]
  have wellFormed := reordered.forall_capabilities ExternalCapability.Reordered.wellFormed_iff
  have classifiable := reordered.forall_capabilities
    fun alike => not_congr (ExternalCapability.Reordered.unclassifiable_iff alike)
  have references : (∀ mapping ∈ left.frameworkMappings, ValidText mapping.toReference) ↔
      ∀ mapping ∈ right.frameworkMappings, ValidText mapping.toReference := by
    simp only [reordered.mappings.mem_iff]
  have evidence : (∀ text ∈ left.evidenceRefs, ValidText text) ↔
      ∀ text ∈ right.evidenceRefs, ValidText text := by
    simp only [reordered.evidence.mem_iff]
  have same := reordered.same
  constructor
  · rintro ⟨source, capable, ⟨skillId, texts, formed, referenced, evidenced⟩, classified⟩
    refine ⟨?_, mt none.mpr capable, ⟨?_, ?_, wellFormed.mp formed, references.mp referenced,
      evidence.mp evidenced⟩, classifiable.mp classified⟩
    · rw [same]
      exact source
    · rw [same]
      exact skillId
    · rw [same]
      exact texts
  · rintro ⟨source, capable, ⟨skillId, texts, formed, referenced, evidenced⟩, classified⟩
    rw [same] at source skillId texts
    exact ⟨source, mt none.mp capable, ⟨skillId, texts, wellFormed.mpr formed,
      references.mpr referenced, evidence.mpr evidenced⟩, classifiable.mpr classified⟩

/-- The capabilities of both skills are sorted alike when their ids are distinct. -/
theorem sortedCapabilities (reordered : left.Reordered right)
    (distinct : (left.capabilities.map (·.capabilityId)).Nodup) :
    List.Forall₂ ExternalCapability.Reordered left.sortedCapabilities right.sortedCapabilities := by
  obtain ⟨middle, pairs, perm⟩ := reordered.capabilities
  have ids : middle.map (·.capabilityId) = left.capabilities.map (·.capabilityId) := by
    clear perm distinct
    generalize left.capabilities = items at pairs
    induction pairs with
    | nil => rfl
    | cons pair _ induction => rw [List.map_cons, List.map_cons, pair.capabilityId, induction]
  have sorted : List.Forall₂ ExternalCapability.Reordered
      (left.capabilities.insertionSort fun one other => one.capabilityId ≤ other.capabilityId)
      (middle.insertionSort fun one other => one.capabilityId ≤ other.capabilityId) :=
    forall₂_insertionSort (fun one other => by rw [one.capabilityId, other.capabilityId]) pairs
  rw [Sorting.insertionSort_eq_of_distinct (ids ▸ distinct) perm] at sorted
  exact sorted

theorem map_sortedCapabilities (reordered : left.Reordered right)
    (distinct : (left.capabilities.map (·.capabilityId)).Nodup) {β : Type}
    {common : ExternalCapability → β}
    (alike : ∀ {one other : ExternalCapability}, one.Reordered other → common one = common other) :
    left.sortedCapabilities.map common = right.sortedCapabilities.map common := by
  have pairs := reordered.sortedCapabilities distinct
  rw [← List.forall₂_eq_eq_eq, List.forall₂_map_left_iff, List.forall₂_map_right_iff]
  exact pairs.imp fun _ _ => alike

/-- The identities of the sorted mappings are the same for both skills: mappings with one key have
one identity. -/
theorem mappingIdentities (reordered : left.Reordered right) :
    left.sortedMappings.map (·.mappingIdentity) = right.sortedMappings.map (·.mappingIdentity) := by
  have perm : left.sortedMappings.Perm right.sortedMappings :=
    (List.perm_insertionSort _ _).trans
      (reordered.mappings.trans (List.perm_insertionSort _ _).symm)
  have keys : left.sortedMappings.map (·.sortKey) = right.sortedMappings.map (·.sortKey) := by
    refine List.Perm.eq_of_pairwise (fun _ _ _ _ early late => le_antisymm early late) ?_ ?_
      (perm.map _)
    · exact List.pairwise_map.mpr (Sorting.pairwise_sorted left.frameworkMappings)
    · exact List.pairwise_map.mpr (Sorting.pairwise_sorted right.frameworkMappings)
  have identities := congrArg (List.map fun key : List String => key.getD 2 "") keys
  rw [List.map_map, List.map_map] at identities
  exact identities

theorem status_eq (reordered : left.Reordered right)
    (distinct : (left.capabilities.map (·.capabilityId)).Nodup) : left.status = right.status := by
  have items : (left.sortedCapabilities.all fun item => item.normalized) =
      right.sortedCapabilities.all fun item => item.normalized := by
    have same := reordered.map_sortedCapabilities distinct
      ExternalCapability.Reordered.normalized_eq
    have all := congrArg (List.all · id) same
    rw [List.all_map, List.all_map] at all
    exact all
  have mappings : (left.sortedMappings.all fun mapping => mapping.status = .normalized) =
      right.sortedMappings.all fun mapping => mapping.status = .normalized := by
    rw [Bool.eq_iff_iff]
    simp only [List.all_eq_true, ExternalSkill.mem_sortedMappings, reordered.mappings.mem_iff]
  have discovery : right.discovery = left.discovery := by rw [reordered.same]
  exact if_congr (by rw [sortedUnique_eq_of_perm reordered.evidence, items, mappings, discovery])
    rfl rfl

theorem sortedManifest_eq (reordered : left.Reordered right)
    (distinct : (left.capabilities.map (·.capabilityId)).Nodup) :
    left.sortedManifest = right.sortedManifest := by
  have ids := reordered.map_sortedCapabilities distinct
    fun alike => (ExternalCapability.Reordered.capabilityId alike).symm
  have risks : left.sortedCapabilities.map (fun item => parseRisk item.riskClass) =
      right.sortedCapabilities.map fun item => parseRisk item.riskClass :=
    reordered.map_sortedCapabilities distinct fun alike => by rw [alike.same]
  have references : sortedUnique (sortedNames (left.sortedMappings.map (·.toReference))) =
      sortedUnique (sortedNames (right.sortedMappings.map (·.toReference))) := by
    refine sortedUnique_eq_of_perm ?_
    have perm : left.sortedMappings.Perm right.sortedMappings :=
      (List.perm_insertionSort _ _).trans
        (reordered.mappings.trans (List.perm_insertionSort _ _).symm)
    exact (List.perm_insertionSort _ _).trans
      ((perm.map _).trans (List.perm_insertionSort _ _).symm)
  have fields : right.skillId = left.skillId ∧ right.version = left.version ∧
      right.source = left.source ∧ right.domain = left.domain ∧
      right.contentRef = left.contentRef := by
    rw [reordered.same]
    exact ⟨rfl, rfl, rfl, rfl, rfl⟩
  obtain ⟨skillId, version, source, domain, contentRef⟩ := fields
  simp only [ExternalSkill.sortedManifest, ExternalSkill.draftManifest, ids, risks, references,
    skillId, version, source, domain, contentRef]

theorem resultIdentity_eq (reordered : left.Reordered right)
    (distinct : (left.capabilities.map (·.capabilityId)).Nodup) :
    (left.result sha256).resultIdentity = (right.result sha256).resultIdentity := by
  have skillId : right.skillId = left.skillId := by rw [reordered.same]
  have discovery : right.discovery = left.discovery := by rw [reordered.same]
  have manifests : left.manifests sha256 = right.manifests sha256 := by
    rw [ExternalSkill.manifests, ExternalSkill.manifests, skillId]
    exact reordered.map_sortedCapabilities distinct fun alike => alike.manifest_eq left.skillId
  have skill : left.skillManifest sha256 = right.skillManifest sha256 := by
    rw [ExternalSkill.skillManifest, ExternalSkill.skillManifest,
      reordered.sortedManifest_eq distinct]
  have claims : (left.draftResult sha256).claimsWithoutIdentity =
      (right.draftResult sha256).claimsWithoutIdentity := by
    simp only [NormalizationResult.claimsWithoutIdentity, ExternalSkill.draftResult, skill,
      manifests, discovery, reordered.mappingIdentities, reordered.status_eq distinct]
  exact congrArg (digestOf sha256.hexdigest) claims

end ExternalSkill.Reordered

/-- Both skills are refused, or both are normalized to results of one identity. -/
def SameOutcome (sha256 : Sha256) (left right : ExternalSkill) : Prop :=
  ((∃ error, left.normalize sha256 = .error error) ∧
    ∃ error, right.normalize sha256 = .error error) ∨
  ∃ one other, left.normalize sha256 = .ok one ∧ right.normalize sha256 = .ok other ∧
    one.resultIdentity = other.resultIdentity

/-- The ids that the manifest of the skill lists are those of the manifests of its capabilities, one
for each. -/
def NormalizationResult.Complete (result : NormalizationResult) : Prop :=
  (result.capabilityManifests.map (·.capabilityId)).Perm result.skillManifest.capabilityIds ∧
    result.skillManifest.capabilityIds.Nodup

theorem ExternalSkill.ids_manifests {external : ExternalSkill} :
    ((external.result sha256).capabilityManifests.map (·.capabilityId)).Perm
      (external.capabilities.map (·.capabilityId)) := by
  have ids : (external.manifests sha256).map (·.capabilityId) =
      external.sortedCapabilities.map (·.capabilityId) := by
    rw [manifests, List.map_map]
    rfl
  have perm : external.sortedCapabilities.Perm external.capabilities := List.perm_insertionSort _ _
  exact List.Perm.trans (.of_eq ids) (perm.map _)

theorem ExternalSkill.complete_iff {external : ExternalSkill} :
    (external.result sha256).Complete ↔ (external.capabilities.map (·.capabilityId)).Nodup := by
  have listed : (external.result sha256).skillManifest.capabilityIds =
      sortedUnique (external.sortedCapabilities.map (·.capabilityId)) := rfl
  have perm : (external.sortedCapabilities.map (·.capabilityId)).Perm
      (external.capabilities.map (·.capabilityId)) := (List.perm_insertionSort _ _).map _
  rw [NormalizationResult.Complete, listed]
  constructor
  · rintro ⟨same, distinct⟩
    exact (ids_manifests.symm.trans same).nodup_iff.mpr distinct
  · intro distinct
    refine ⟨ids_manifests.trans ?_, sortedUnique_nodup _⟩
    rw [sortedUnique, (perm.nodup_iff.mpr distinct).dedup]
    exact perm.symm.trans (List.perm_insertionSort _ _).symm

/-- The outcome of a skill does not depend on order and loses no capability exactly when the ids of
its capabilities are distinct or it is not accepted. -/
theorem normalize_unordered (sha256 : Sha256) (external : ExternalSkill) :
    ((∀ other : ExternalSkill, external.Reordered other → SameOutcome sha256 external other) ∧
      ∀ result, external.normalize sha256 = .ok result → result.Complete) ↔
    (external.Accepted → (external.capabilities.map (·.capabilityId)).Nodup) := by
  have refused {skill : ExternalSkill} (notAccepted : ¬skill.Accepted) :
      ∃ error, skill.normalize sha256 = .error error := by
    cases outcome : skill.normalize sha256 with
    | error error => exact ⟨error, rfl⟩
    | ok result => exact absurd (ExternalSkill.normalize_eq_ok.mp outcome).1 notAccepted
  constructor
  · rintro ⟨-, complete⟩ accepted
    exact ExternalSkill.complete_iff.mp
      (complete _ (ExternalSkill.normalize_eq_ok.mpr ⟨accepted, rfl⟩))
  · intro distinct
    refine ⟨fun other reordered => ?_, fun result normalized => ?_⟩
    · by_cases accepted : external.Accepted
      · have otherAccepted := reordered.accepted_iff.mp accepted
        exact .inr ⟨_, _, ExternalSkill.normalize_eq_ok.mpr ⟨accepted, rfl⟩,
          ExternalSkill.normalize_eq_ok.mpr ⟨otherAccepted, rfl⟩,
          reordered.resultIdentity_eq (distinct accepted)⟩
      · exact .inl ⟨refused accepted, refused (mt reordered.accepted_iff.mpr accepted)⟩
    · obtain ⟨accepted, rfl⟩ := ExternalSkill.normalize_eq_ok.mp normalized
      exact ExternalSkill.complete_iff.mpr (distinct accepted)

/-- Two capabilities of one id that differ in their scope. -/
def sharedIdSkill : ExternalSkill :=
  let scan : ExternalCapability :=
    ⟨"scan/v1", "scan", "read", "low", "workspace", [], ["report"]⟩
  { unclassifiableSkill with capabilities := [scan, { scan with resourceScope := "repository" }] }

/-- A capability of an accepted skill can be lost. -/
theorem normalize_loses : ¬∀ (sha256 : Sha256) (external : ExternalSkill),
    (∀ other : ExternalSkill, external.Reordered other → SameOutcome sha256 external other) ∧
      ∀ result, external.normalize sha256 = .ok result → result.Complete := by
  intro claim
  have wellFormed : ∀ item ∈ sharedIdSkill.capabilities, item.WellFormed := by
    refine List.forall_mem_cons.mpr ⟨?_, List.forall_mem_singleton.mpr ?_⟩
    · exact ⟨by decide, by decide, by decide, by decide, by decide⟩
    · exact ⟨by decide, by decide, by decide, by decide, by decide⟩
  have accepted : sharedIdSkill.Accepted :=
    ⟨rfl, List.cons_ne_nil _ _, ⟨by decide, by decide, wellFormed,
      List.forall_mem_nil _, by decide⟩, by decide⟩
  have complete := (claim sampleDigest sharedIdSkill).2 _
    (ExternalSkill.normalize_eq_ok.mpr ⟨accepted, rfl⟩)
  exact absurd (ExternalSkill.complete_iff.mp complete) (by decide)

end VoodooOne.SecurityIntelligence
