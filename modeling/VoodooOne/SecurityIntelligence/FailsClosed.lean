import VoodooOne.SecurityIntelligence.Normalization

/-!
# Normalization fails closed

A skill whose texts are well formed is normalized and marked as its capabilities deserve, but for
the skills with a capability that cannot be classified: those are refused.
-/

namespace VoodooOne.SecurityIntelligence

variable {sha256 : Sha256}

namespace ExternalCapability

structure WellFormed (item : ExternalCapability) : Prop where
  capabilityId : matchesCapability item.capabilityId = true
  sourceCapability : ValidText item.sourceCapability
  resourceScope : ValidText item.resourceScope
  constraints : ∀ text ∈ item.sandboxConstraints, ValidText text
  evidence : ∀ text ∈ item.evidenceRefs, ValidText text

/-- An unknown risk with an effect that mutates and is constrained: no authority requirement can be
stated for it. -/
def Unclassifiable (item : ExternalCapability) : Prop :=
  parseRisk item.riskClass = .unknown ∧ parseEffect item.effectClass ∈ mutationEffects ∧
    item.sandboxConstraints ≠ []

instance : DecidablePred Unclassifiable := fun _ =>
  inferInstanceAs (Decidable (_ ∧ _ ∧ _))

def draftManifest (sha256 : Sha256) (skillId : String) (item : ExternalCapability) :
    CapabilityManifest :=
  ⟨item.capabilityId, skillId, item.sourceCapability, item.manifestEffect, item.resourceScope,
    parseRisk item.riskClass,
    .classified sha256 (parseRisk item.riskClass) item.manifestEffect,
    sortedUnique item.sandboxConstraints, sortedUnique item.evidenceRefs,
    if item.normalized then "NORMALIZED" else "UNKNOWN", ""⟩

def manifest (sha256 : Sha256) (skillId : String) (item : ExternalCapability) :
    CapabilityManifest :=
  { item.draftManifest sha256 skillId with
    manifestIdentity := digestOf sha256.hexdigest
      (item.draftManifest sha256 skillId).claimsWithoutIdentity }

variable {item : ExternalCapability}

theorem manifestEffect_active (active : item.manifestEffect ∈ activeEffects) :
    sortedUnique item.sandboxConstraints ≠ [] := by
  unfold manifestEffect at active
  split at active
  · exact absurd active (by decide)
  · next constrained => exact fun none => constrained ⟨active, none⟩

theorem manifestEffect_mutation : item.manifestEffect ∈ mutationEffects ↔
      parseEffect item.effectClass ∈ mutationEffects ∧ item.sandboxConstraints ≠ [] := by
  have active (mutates : parseEffect item.effectClass ∈ mutationEffects) :
      parseEffect item.effectClass ∈ activeEffects := by
    revert mutates
    cases parseEffect item.effectClass <;> decide
  unfold manifestEffect
  split
  · next unconstrained =>
    rw [sortedUnique_eq_nil] at unconstrained
    simp [unconstrained.2, mutationEffects]
  · next constrained =>
    rw [sortedUnique_eq_nil] at constrained
    constructor
    · exact fun mutates => ⟨mutates, fun none => constrained ⟨active mutates, none⟩⟩
    · exact And.left

theorem normalized_evidence (evidenceLess : item.evidenceRefs = []) : item.normalized = false := by
  simp [normalized, evidenceLess]

/-- A capability is normalized to its manifest unless it is malformed or cannot be classified. -/
theorem normalize_eq_ok {skillId : String} {result : CapabilityManifest} :
    item.normalize sha256 skillId = .ok result ↔
      (matchesSkillId skillId = true ∧ item.WellFormed ∧ ¬item.Unclassifiable) ∧
        result = item.manifest sha256 skillId := by
  have status : (if item.normalized then NormalizationStatus.normalized else .unknown).value =
      if item.normalized then "NORMALIZED" else "UNKNOWN" := by
    cases item.normalized <;> rfl
  have listed : (if item.normalized then "NORMALIZED" else "UNKNOWN") ∈
    ["NORMALIZED", "UNKNOWN"] := by
    cases item.normalized <;> decide
  have unevidenced (none : item.evidenceRefs = []) :
      (if item.normalized then "NORMALIZED" else "UNKNOWN") = "UNKNOWN" := by
    rw [normalized_evidence none]
    rfl
  simp only [normalize, bind_eq_ok, requireEachText_eq_ok, CapabilityManifest.create_eq_ok, status,
    mem_sortedUnique, manifestEffect_mutation, sortedUnique_again, sortedUnique_eq_nil]
  constructor
  · rintro ⟨_, -, _, -, ⟨capability, skill, source, scope, constraints, evidence, classified, -⟩,
      draft, rfl, rfl⟩
    exact ⟨⟨skill, ⟨capability, source, scope, constraints, evidence⟩, classified⟩, rfl⟩
  · rintro ⟨⟨skill, wellFormed, classified⟩, rfl⟩
    exact ⟨(), wellFormed.constraints, (), wellFormed.evidence, ⟨wellFormed.capabilityId, skill,
      wellFormed.sourceCapability, wellFormed.resourceScope, wellFormed.constraints,
      wellFormed.evidence, classified, manifestEffect_active, listed, unevidenced⟩, _, rfl, rfl⟩

end ExternalCapability

theorem FrameworkMapping.validText_toReference {mapping : FrameworkMapping}
    (passed : mapping.postInit sha256 = .ok ()) : ValidText mapping.toReference := by
  simp only [postInit, bind_eq_ok, requireTextFields_eq_ok, List.forall_mem_cons] at passed
  obtain ⟨_, ⟨framework, externalId, -⟩, -⟩ := passed
  refine ValidText.append ?_ externalId (by decide)
  split
  · exact framework
  · decide

namespace ExternalSkill

structure WellFormed (external : ExternalSkill) : Prop where
  skillId : matchesSkillId external.skillId = true
  texts : ValidText external.version ∧ ValidText external.source ∧ ValidText external.domain ∧
    ValidText external.contentRef
  capabilities : ∀ item ∈ external.capabilities, item.WellFormed
  references : ∀ mapping ∈ external.frameworkMappings, ValidText mapping.toReference
  evidence : ∀ text ∈ external.evidenceRefs, ValidText text

structure Accepted (external : ExternalSkill) : Prop where
  source : external.discovery.source = external.source
  capable : external.capabilities ≠ []
  wellFormed : external.WellFormed
  classifiable : ∀ item ∈ external.capabilities, ¬item.Unclassifiable

def manifests (sha256 : Sha256) (external : ExternalSkill) : List CapabilityManifest :=
  external.sortedCapabilities.map (·.manifest sha256 external.skillId)

def sortedManifest (external : ExternalSkill) : SkillManifest :=
  let draft := external.draftManifest (external.sortedCapabilities.map (·.capabilityId))
  { draft with
    capabilityIds := sortedUnique draft.capabilityIds
    authorityRequirements := sortedUnique draft.authorityRequirements
    frameworkMappings := sortedUnique draft.frameworkMappings
    evidenceRequirements := sortedUnique draft.evidenceRequirements
    verificationRequirements := sortedUnique draft.verificationRequirements }

def skillManifest (sha256 : Sha256) (external : ExternalSkill) : SkillManifest :=
  { external.sortedManifest with
    manifestIdentity := digestOf sha256.hexdigest external.sortedManifest.claimsWithoutIdentity }

def draftResult (sha256 : Sha256) (external : ExternalSkill) : NormalizationResult :=
  ⟨external.skillManifest sha256, external.manifests sha256, external.sortedMappings,
    external.discovery, external.status, true, false, false, ""⟩

def result (sha256 : Sha256) (external : ExternalSkill) : NormalizationResult :=
  { external.draftResult sha256 with
    resultIdentity :=
      digestOf sha256.hexdigest (external.draftResult sha256).claimsWithoutIdentity }

variable {external : ExternalSkill}

theorem mem_sortedCapabilities {item : ExternalCapability} :
    item ∈ external.sortedCapabilities ↔ item ∈ external.capabilities :=
  List.mem_insertionSort _

theorem mem_sortedMappings {mapping : FrameworkMapping} :
    mapping ∈ external.sortedMappings ↔ mapping ∈ external.frameworkMappings :=
  List.mem_insertionSort _

/-- The manifest of a skill is created from manifests of its capabilities when its texts are well
formed. -/
theorem skillManifest_eq_ok {manifest : SkillManifest} (capable : external.capabilities ≠ [])
    (capabilities : ∀ item ∈ external.capabilities, matchesCapability item.capabilityId = true) :
    SkillManifest.create sha256
        (external.draftManifest (external.sortedCapabilities.map (·.capabilityId))) = .ok manifest ↔
      (matchesSkillId external.skillId = true ∧ (ValidText external.version ∧
        ValidText external.source ∧ ValidText external.domain ∧ ValidText external.contentRef) ∧
        ∀ mapping ∈ external.frameworkMappings, ValidText mapping.toReference) ∧
      manifest = external.skillManifest sha256 := by
  have some : external.sortedCapabilities.map (·.capabilityId) ≠ [] := by
    obtain ⟨item, found⟩ := List.exists_mem_of_ne_nil _ capable
    exact List.ne_nil_of_mem (List.mem_map_of_mem (mem_sortedCapabilities.mpr found))
  have named : ∀ id ∈ external.sortedCapabilities.map (·.capabilityId),
      matchesCapability id = true := by
    rw [List.forall_mem_map]
    exact fun item found => capabilities item (mem_sortedCapabilities.mp found)
  have constant : ValidText "vop-policy-evaluation" ∧ ValidText "source-evidence" ∧
      ValidText "independent-verification-before-activation" := by decide
  have references : (∀ text ∈ sortedNames (external.sortedMappings.map (·.toReference)),
      ValidText text) ↔ ∀ mapping ∈ external.frameworkMappings, ValidText mapping.toReference := by
    simp only [sortedNames, List.mem_insertionSort, List.forall_mem_map, mem_sortedMappings]
  rw [SkillManifest.create_eq_ok]
  simp only [draftManifest, references, ne_eq, List.cons_ne_nil, not_false_eq_true, true_and,
    List.forall_mem_singleton, constant, and_true]
  constructor
  · rintro ⟨⟨skill, texts, -, mappings⟩, sorted, rfl, rfl⟩
    exact ⟨⟨skill, texts, mappings⟩, rfl⟩
  · rintro ⟨⟨skill, texts, mappings⟩, rfl⟩
    exact ⟨⟨skill, texts, ⟨some, named⟩, mappings⟩, _, rfl, rfl⟩

theorem normalize_eq_ok {found : NormalizationResult} : external.normalize sha256 = .ok found ↔
      external.Accepted ∧ found = external.result sha256 := by
  have each (found : List CapabilityManifest) :
      external.sortedCapabilities.mapM (·.normalize sha256 external.skillId) = .ok found ↔
        (∀ item ∈ external.sortedCapabilities, matchesSkillId external.skillId = true ∧
          item.WellFormed ∧ ¬item.Unclassifiable) ∧ found = external.manifests sha256 :=
    mapM_eq_ok fun _ _ => ExternalCapability.normalize_eq_ok
  have ids : (external.manifests sha256).map (·.capabilityId) =
      external.sortedCapabilities.map (·.capabilityId) := by
    rw [manifests, List.map_map]
    rfl
  simp only [normalize, bind_eq_ok, raiseIf_eq_ok, not_not, requireEachText_eq_ok,
    mem_sortedUnique, each, mem_sortedCapabilities, NormalizationResult.postInit, pure_eq_ok]
  constructor
  · rintro ⟨_, source, _, capable, _, evidence, _, ⟨items, rfl⟩, manifest, created, _, -, rfl⟩
    rw [ids, skillManifest_eq_ok capable fun item found => (items item found).2.1.capabilityId]
      at created
    obtain ⟨⟨skillId, texts, references⟩, rfl⟩ := created
    exact ⟨⟨source, capable, ⟨skillId, texts, fun item found => (items item found).2.1, references,
      evidence⟩, fun item found => (items item found).2.2⟩, rfl⟩
  · rintro ⟨⟨source, capable, wellFormed, classifiable⟩, rfl⟩
    refine ⟨(), source, (), capable, (), wellFormed.evidence, _, ⟨fun item found =>
      ⟨wellFormed.skillId, wellFormed.capabilities item found, classifiable item found⟩, rfl⟩,
      external.skillManifest sha256, ?_, (), ⟨(), rfl, (), by decide, (), by decide, (), by decide,
        rfl⟩, rfl⟩
    rw [ids, skillManifest_eq_ok capable fun item found =>
      (wellFormed.capabilities item found).capabilityId]
    exact ⟨⟨wellFormed.skillId, wellFormed.texts, wellFormed.references⟩, rfl⟩

end ExternalSkill

def recognisedRisks : List String := ["LOW", "MEDIUM", "HIGH", "CRITICAL"]

def recognisedActive : List String := ["COMPUTE", "NETWORK", "WRITE", "EXECUTE"]

def recognisedEffects : List String := "READ" :: recognisedActive

variable {text : String}

theorem parseRisk_eq_unknown : parseRisk text = .unknown ↔ upper text ∉ recognisedRisks := by
  simp only [parseRisk, List.find?_cons, List.find?_nil, RiskClass.value, recognisedRisks,
    List.mem_cons, List.not_mem_nil, or_false, not_or]
  constructor
  · intro unknown
    refine ⟨?_, ?_, ?_, ?_⟩ <;> (intro same; rw [same] at unknown; revert unknown; decide)
  · rintro ⟨low, medium, high, critical⟩
    simp [Ne.symm low, Ne.symm medium, Ne.symm high, Ne.symm critical]

theorem parseEffect_eq_unknown : parseEffect text = .unknown ↔ upper text ∉ recognisedEffects := by
  simp only [parseEffect, List.find?_cons, List.find?_nil, EffectClass.value, recognisedEffects,
    recognisedActive, List.mem_cons, List.not_mem_nil, or_false, not_or]
  constructor
  · intro unknown
    refine ⟨?_, ?_, ?_, ?_, ?_⟩ <;> (intro same; rw [same] at unknown; revert unknown; decide)
  · rintro ⟨read, compute, network, write, execute⟩
    simp [Ne.symm read, Ne.symm compute, Ne.symm network, Ne.symm write, Ne.symm execute]

theorem parseEffect_active : parseEffect text ∈ activeEffects ↔ upper text ∈ recognisedActive := by
  by_cases recognised : upper text ∈ recognisedEffects
  · simp only [recognisedEffects, recognisedActive, List.mem_cons, List.not_mem_nil, or_false]
      at recognised
    rcases recognised with same | same | same | same | same <;>
      (simp only [parseEffect, same]; decide)
  · rw [parseEffect_eq_unknown.mpr recognised]
    have inactive : upper text ∉ recognisedActive :=
      fun active => recognised (List.mem_cons_of_mem _ active)
    exact iff_of_false (by decide) inactive

namespace ExternalCapability

/-- A capability qualifies: its risk and its effect are recognised, it has evidence and, when its
effect is active, constraints. -/
structure Qualifies (item : ExternalCapability) : Prop where
  risk : upper item.riskClass ∈ recognisedRisks
  effect : upper item.effectClass ∈ recognisedEffects
  evidence : item.evidenceRefs ≠ []
  constrained : upper item.effectClass ∈ recognisedActive → item.sandboxConstraints ≠ []

theorem normalized_iff {item : ExternalCapability} : item.normalized = true ↔ item.Qualifies := by
  simp only [normalized, Bool.and_eq_true, decide_eq_true_eq, ne_eq, parseRisk_eq_unknown,
    parseEffect_eq_unknown, not_not, sortedUnique_eq_nil, parseEffect_active]
  constructor
  · rintro ⟨⟨⟨risk, effect⟩, evidence⟩, constrained⟩
    exact ⟨risk, effect, evidence, fun active => constrained.resolve_left (not_not.mpr active)⟩
  · rintro ⟨risk, effect, evidence, constrained⟩
    exact ⟨⟨⟨risk, effect⟩, evidence⟩, or_iff_not_imp_left.mpr fun active =>
      constrained (not_not.mp active)⟩

structure Stated (item : ExternalCapability) (manifest : CapabilityManifest) : Prop where
  capabilityId : manifest.capabilityId = item.capabilityId
  riskClass : manifest.riskClass = parseRisk item.riskClass
  marked : ¬item.Qualifies → manifest.normalizationStatus = "UNKNOWN"
  authority : upper item.riskClass ∉ recognisedRisks ∨ upper item.effectClass ∉ recognisedEffects →
    manifest.requiredAuthority.defaultDisposition = .unknown ∧
      manifest.requiredAuthority.approvalRequired = true

theorem stated_manifest (skillId : String) (item : ExternalCapability) :
    item.Stated (item.manifest sha256 skillId) where
  capabilityId := rfl
  riskClass := rfl
  marked unqualified := by
    have unmarked : item.normalized = false :=
      Bool.eq_false_iff.mpr (mt normalized_iff.mp unqualified)
    simp only [manifest, draftManifest, unmarked]
    rfl
  authority unrecognised := by
    have isUnknown : parseRisk item.riskClass = .unknown ∨ item.manifestEffect = .unknown := by
      refine unrecognised.imp parseRisk_eq_unknown.mpr fun effect => ?_
      unfold manifestEffect
      split
      · rfl
      · exact parseEffect_eq_unknown.mpr effect
    simp [manifest, draftManifest, AuthorityRequirement.classified, AuthorityRequirement.disposed,
      isUnknown]

end ExternalCapability

theorem maxRisk_spec {risks : List RiskClass} (some : risks ≠ []) :
    maxRisk risks ∈ risks ∧ ∀ risk ∈ risks, risk.order ≤ (maxRisk risks).order := by
  have fold (best : RiskClass) (later : List RiskClass) :
      let top := later.foldl (fun best risk => if best.order < risk.order then risk else best) best
      (top = best ∨ top ∈ later) ∧ best.order ≤ top.order ∧
        ∀ risk ∈ later, risk.order ≤ top.order := by
    induction later generalizing best with
    | nil => exact ⟨.inl rfl, le_rfl, List.forall_mem_nil _⟩
    | cons risk later induction =>
        let next := if best.order < risk.order then risk else best
        have either : next = best ∨ next = risk := by
          unfold next
          split
          · exact .inr rfl
          · exact .inl rfl
        have both : best.order ≤ next.order ∧ risk.order ≤ next.order := by
          unfold next
          split <;> omega
        obtain ⟨found, above, greatest⟩ := induction next
        refine ⟨?_, both.1.trans above, List.forall_mem_cons.mpr ⟨both.2.trans above, greatest⟩⟩
        rcases found with same | later
        · rcases either with isBest | isRisk
          · exact .inl (same.trans isBest)
          · exact .inr (List.mem_cons.mpr (.inl (same.trans isRisk)))
        · exact .inr (List.mem_cons_of_mem _ later)
  cases risks with
  | nil => exact absurd rfl some
  | cons first rest =>
      obtain ⟨found, -, greatest⟩ := fold first (first :: rest)
      exact ⟨found.elim (fun same => List.mem_cons.mpr (.inl same)) id, greatest⟩

namespace ExternalSkill

/-- A result states of a skill what its parts deserve. -/
structure FailsClosed (external : ExternalSkill) (result : NormalizationResult) : Prop where
  capabilities : ∃ order : List ExternalCapability, order.Perm external.capabilities ∧
    List.Forall₂ ExternalCapability.Stated order result.capabilityManifests
  marked : (∃ item ∈ external.capabilities, ¬item.Qualifies) → result.status = .unknown
  riskClass : (∃ item ∈ external.capabilities,
      parseRisk item.riskClass = result.skillManifest.riskClass) ∧
    ∀ item ∈ external.capabilities,
      (parseRisk item.riskClass).order ≤ result.skillManifest.riskClass.order
  status : result.status = .normalized ↔ (∀ item ∈ external.capabilities, item.Qualifies) ∧
    (∀ mapping ∈ external.frameworkMappings, mapping.status = .normalized) ∧
    external.evidenceRefs ≠ [] ∧ external.discovery.level ∈ [.metadata, .content]

theorem status_eq_normalized {external : ExternalSkill} : external.status = .normalized ↔
    (∀ item ∈ external.capabilities, item.Qualifies) ∧
      (∀ mapping ∈ external.frameworkMappings, mapping.status = .normalized) ∧
      external.evidenceRefs ≠ [] ∧ external.discovery.level ∈ [.metadata, .content] := by
  have decided : external.status = .normalized ↔ sortedUnique external.evidenceRefs ≠ [] ∧
      (external.sortedCapabilities.all fun item => item.normalized) = true ∧
      (external.sortedMappings.all fun mapping => mapping.status = .normalized) = true ∧
      external.discovery.level ∈ [.metadata, .content] := by
    unfold status
    split
    · next all => exact iff_of_true rfl all
    · next none => exact iff_of_false (by decide) none
  simp only [decided, List.all_eq_true, mem_sortedCapabilities, mem_sortedMappings,
    ExternalCapability.normalized_iff, decide_eq_true_eq, ne_eq, sortedUnique_eq_nil]
  tauto

theorem failsClosed_result {external : ExternalSkill} (capable : external.capabilities ≠ []) :
    external.FailsClosed (external.result sha256) where
  capabilities := by
    refine ⟨external.sortedCapabilities, List.perm_insertionSort _ _, ?_⟩
    refine List.forall₂_map_right_iff.mpr (List.forall₂_same.mpr fun item _ => ?_)
    exact item.stated_manifest external.skillId
  marked := by
    rintro ⟨item, found, unqualified⟩
    have other : external.status ≠ .normalized :=
      fun normalized => unqualified ((status_eq_normalized.mp normalized).1 item found)
    change external.status = .unknown
    cases state : external.status with
    | normalized => exact absurd state other
    | unknown => rfl
  riskClass := by
    have some : external.sortedCapabilities.map (fun item => parseRisk item.riskClass) ≠ [] := by
      obtain ⟨item, found⟩ := List.exists_mem_of_ne_nil _ capable
      exact List.ne_nil_of_mem (List.mem_map_of_mem (mem_sortedCapabilities.mpr found))
    obtain ⟨found, greatest⟩ := maxRisk_spec some
    obtain ⟨item, listed, same⟩ := List.mem_map.mp found
    exact ⟨⟨item, mem_sortedCapabilities.mp listed, same⟩, fun item found =>
      greatest _ (List.mem_map_of_mem (mem_sortedCapabilities.mpr found))⟩
  status := status_eq_normalized

end ExternalSkill

/-- An external skill with well-formed ids and texts and at least one capability, whose discovery
and mappings were constructed. -/
structure SubmittedSkill (sha256 : Sha256) where
  external : ExternalSkill
  skillId : matchesSkillId external.skillId = true
  texts : ValidText external.version ∧ ValidText external.source ∧ ValidText external.domain ∧
    ValidText external.contentRef
  capable : external.capabilities ≠ []
  capabilities : ∀ item ∈ external.capabilities, item.WellFormed
  mappings : ∀ mapping ∈ external.frameworkMappings, mapping.postInit sha256 = .ok ()
  evidence : ∀ text ∈ external.evidenceRefs, ValidText text
  discovered : external.discovery.postInit sha256 = .ok ()

theorem SubmittedSkill.wellFormed (submitted : SubmittedSkill sha256) :
    submitted.external.WellFormed :=
  ⟨submitted.skillId, submitted.texts, submitted.capabilities, fun mapping listed =>
    FrameworkMapping.validText_toReference (submitted.mappings mapping listed), submitted.evidence⟩

/-- A submitted skill is normalized to a result that fails closed exactly when it was discovered at
its own source and all its capabilities can be classified. -/
theorem normalize_failsClosed (sha256 : Sha256) (submitted : SubmittedSkill sha256) :
    (∃ result, submitted.external.normalize sha256 = .ok result ∧
      submitted.external.FailsClosed result) ↔
    submitted.external.discovery.source = submitted.external.source ∧
      ∀ item ∈ submitted.external.capabilities, ¬item.Unclassifiable := by
  constructor
  · rintro ⟨result, normalized, -⟩
    obtain ⟨accepted, -⟩ := ExternalSkill.normalize_eq_ok.mp normalized
    exact ⟨accepted.source, accepted.classifiable⟩
  · rintro ⟨source, classifiable⟩
    exact ⟨_, ExternalSkill.normalize_eq_ok.mpr
      ⟨⟨source, submitted.capable, submitted.wellFormed, classifiable⟩, rfl⟩,
      ExternalSkill.failsClosed_result submitted.capable⟩

/-- A capability of an unrecognised risk that writes, under a constraint. -/
def unclassifiableCapability : ExternalCapability :=
  ⟨"scan/v1", "scan", "write", "severe", "workspace", ["no-network"], ["report"]⟩

def unclassifiableSkill : ExternalSkill :=
  let discovery : ProgressiveDiscovery :=
    ⟨"catalog", "scan", "index", some "metadata", none, .metadata, ""⟩
  ⟨"catalog", "scan", "1", "security", "content",
    { discovery with
      discoveryIdentity := digestOf sampleDigest.hexdigest discovery.claimsWithoutIdentity },
    [unclassifiableCapability], [], ["report"]⟩

/-- A submitted skill of the right source can be refused. -/
theorem normalize_refuses : ¬∀ (sha256 : Sha256) (submitted : SubmittedSkill sha256),
    submitted.external.discovery.source = submitted.external.source →
      ∃ result, submitted.external.normalize sha256 = .ok result ∧
        submitted.external.FailsClosed result := by
  intro claim
  have texts : ∀ text ∈ ["report"], ValidText text := by decide
  have wellFormed : unclassifiableCapability.WellFormed :=
    ⟨by decide, by decide, by decide, by decide, by decide⟩
  have discovered : unclassifiableSkill.discovery.postInit sampleDigest = .ok () := by
    simp only [ProgressiveDiscovery.postInit, bind_eq_ok, raiseIf_eq_ok, requireEachText_eq_ok,
      requireTextFields_eq_ok]
    exact ⟨(), by decide, (), by decide, (), by decide, (), by decide, (), by decide, (),
      by decide, (), by decide, not_not.mpr rfl⟩
  obtain ⟨result, normalized, -⟩ := claim sampleDigest ⟨unclassifiableSkill, by decide, by decide,
    List.cons_ne_nil _ _, List.forall_mem_singleton.mpr wellFormed, List.forall_mem_nil _, texts,
    discovered⟩ rfl
  obtain ⟨accepted, -⟩ := ExternalSkill.normalize_eq_ok.mp normalized
  exact accepted.classifiable _ (List.mem_singleton_self _) (by decide)

end VoodooOne.SecurityIntelligence
