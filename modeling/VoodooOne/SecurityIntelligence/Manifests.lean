import VoodooOne.Authorization.ExecutionContract
import VoodooOne.Evidence.Chain
import VoodooOne.Foundation.Interpreter
import VoodooOne.Foundation.ValidTexts

/-!
# Security intelligence manifests

A skill is described by a manifest of its own and by one for each of its capabilities.  A capability
carries the authority that its risk and its effect require.
-/

namespace VoodooOne.SecurityIntelligence

/-- `_SKILL_ID_PATTERN`: parts between `.`, `_` and `-`, the first of which starts with a letter. -/
def matchesSkillId (text : String) : Bool :=
  text.toList.head?.any Char.isLower &&
    (text.toList.splitOnP fun character => ['.', '_', '-'].contains character).all
      fun part => !part.isEmpty && part.all isLowerAlphanum

theorem plain_of_lowerAlphanum {character : Char} (lower : isLowerAlphanum character = true) :
    isSpace character = false ∧ character ≠ Char.ofNat 0 := by
  change (decide ('a'.val ≤ character.val) && decide (character.val ≤ 'z'.val) ||
    (decide ('0'.val ≤ character.val) && decide (character.val ≤ '9'.val))) = true at lower
  simp only [Bool.or_eq_true, Bool.and_eq_true, decide_eq_true_eq] at lower
  have bounds : 32 < character.toNat ∧ character.toNat < 128 := by
    rcases lower with ⟨low, high⟩ | ⟨low, high⟩
    · have least : 97 ≤ character.toNat := UInt32.le_iff_toNat_le.mp low
      have greatest : character.toNat ≤ 122 := UInt32.le_iff_toNat_le.mp high
      omega
    · have least : 48 ≤ character.toNat := UInt32.le_iff_toNat_le.mp low
      have greatest : character.toNat ≤ 57 := UInt32.le_iff_toNat_le.mp high
      omega
  exact plain_of_ascii bounds.1 bounds.2

theorem validText_of_matchesCapability {text : String} (matched : matchesCapability text = true) :
    ValidText text := by
  unfold matchesCapability at matched
  split at matched
  · next name first rest parts =>
    simp only [Bool.and_eq_true, List.all_eq_true] at matched
    obtain ⟨⟨⟨⟨-, named⟩, digit⟩, -⟩, digits⟩ := matched
    refine validText_of_plain ?_ fun character member => ?_
    · rintro rfl
      cases parts
    · have split : (character == '/') = true ∨
          ∃ part ∈ text.toList.splitOnP (· == '/'), character ∈ part :=
        mem_splitOnP (· == '/') member
      rw [← List.splitOn_eq_splitOnP, parts] at split
      rcases split with slash | ⟨part, found, inside⟩
      · rw [beq_iff_eq.mp slash]
        decide
      · simp only [List.mem_cons, List.not_mem_nil, or_false] at found
        rcases found with rfl | rfl
        · rcases mem_splitOnP _ inside with separator | ⟨piece, listed, within⟩
          · have listed : character ∈ ['.', '_', '-'] := List.contains_iff_mem.mp separator
            simp only [List.mem_cons, List.not_mem_nil, or_false] at listed
            rcases listed with rfl | rfl | rfl <;> decide
          · exact plain_of_lowerAlphanum ((named piece listed).2 character within)
        · rcases List.mem_cons.mp inside with rfl | inside
          · decide
          · refine plain_of_lowerAlphanum (Bool.or_eq_true_iff.mpr (.inr ?_))
            rcases List.mem_cons.mp inside with rfl | inside
            · exact digit
            · exact digits character inside
  · cases matched

/-- `tuple(sorted(set(values)))`. -/
def sortedUnique (values : List String) : List String := sortedNames values.dedup

/-- The loop of `_require_text` over the values of a field. -/
def requireEachText (values : List String) (field : String) : Except Raised Unit :=
  requireTextFields (values.map fun value => (field, value))

def requireSortedUniqueText (values : List String) (field : String) (allowEmpty : Bool) :
    Except Raised Unit := do
  raiseIf (allowEmpty = false ∧ values = []) (valueError (field ++ " must not be empty"))
  raiseIf (values ≠ sortedUnique values) (valueError (field ++ " must be sorted and unique"))
  requireEachText values field

def textItems (values : List String) : Json := .arr (values.map .str)

variable {values : List String}

@[simp] theorem mem_sortedUnique {value : String} :
    value ∈ sortedUnique values ↔ value ∈ values := by
  rw [sortedUnique, sortedNames, List.mem_insertionSort, List.mem_dedup]

@[simp] theorem sortedUnique_eq_nil : sortedUnique values = [] ↔ values = [] := by
  simp only [List.eq_nil_iff_forall_not_mem, mem_sortedUnique]

theorem sortedUnique_nodup (values : List String) : (sortedUnique values).Nodup :=
  (List.perm_insertionSort _ _).nodup_iff.mpr (List.nodup_dedup values)

theorem sortedUnique_again (values : List String) :
    sortedUnique (sortedUnique values) = sortedUnique values := by
  rw [sortedUnique, (sortedUnique_nodup values).dedup]
  exact (List.pairwise_insertionSort (· ≤ ·) values.dedup).insertionSort_eq

theorem sortedUnique_eq_of_perm {left right : List String} (perm : left.Perm right) :
    sortedUnique left = sortedUnique right :=
  List.Perm.eq_of_pairwise (fun _ _ _ _ early late => le_antisymm early late)
    (List.pairwise_insertionSort (· ≤ ·) _) (List.pairwise_insertionSort (· ≤ ·) _)
    ((List.perm_insertionSort _ _).trans (perm.dedup.trans (List.perm_insertionSort _ _).symm))

theorem requireEachText_eq_ok {field : String} {result : Unit} :
    requireEachText values field = .ok result ↔ ∀ value ∈ values, ValidText value := by
  rw [requireEachText, requireTextFields_eq_ok, List.forall_mem_map]

/-- Values that were sorted without repetition pass when they are texts. -/
theorem requireSortedUniqueText_eq_ok {field : String} {allowEmpty : Bool} {result : Unit} :
    requireSortedUniqueText (sortedUnique values) field allowEmpty = .ok result ↔
      (allowEmpty = false → values ≠ []) ∧ ∀ value ∈ values, ValidText value := by
  simp only [requireSortedUniqueText, bind_eq_ok, raiseIf_eq_ok, sortedUnique_again, ne_eq,
    not_true_eq_false, not_false_eq_true, requireEachText_eq_ok, mem_sortedUnique,
    sortedUnique_eq_nil, not_and, exists_const, true_and]

inductive RiskClass where
  | low
  | medium
  | high
  | critical
  | unknown
deriving DecidableEq, Repr

inductive EffectClass where
  | read
  | compute
  | network
  | write
  | execute
  | unknown
deriving DecidableEq, Repr

inductive SkillStatus where
  | proposed
  | approved
  | blocked
  | deprecated
deriving DecidableEq, Repr

inductive AuthorityDisposition where
  | requireVopEvaluation
  | requireHuman
  | deny
  | unknown
deriving DecidableEq, Repr

def RiskClass.value : RiskClass → String
  | low => "LOW"
  | medium => "MEDIUM"
  | high => "HIGH"
  | critical => "CRITICAL"
  | unknown => "UNKNOWN"

def EffectClass.value : EffectClass → String
  | read => "READ"
  | compute => "COMPUTE"
  | network => "NETWORK"
  | write => "WRITE"
  | execute => "EXECUTE"
  | unknown => "UNKNOWN"

def SkillStatus.value : SkillStatus → String
  | proposed => "PROPOSED"
  | approved => "APPROVED"
  | blocked => "BLOCKED"
  | deprecated => "DEPRECATED"

def AuthorityDisposition.value : AuthorityDisposition → String
  | requireVopEvaluation => "REQUIRE_VOP_EVALUATION"
  | requireHuman => "REQUIRE_HUMAN"
  | deny => "DENY"
  | unknown => "UNKNOWN"

def activeEffects : List EffectClass := [.compute, .network, .write, .execute]

def mutationEffects : List EffectClass := [.write, .execute]

structure AuthorityRequirement where
  riskClass : RiskClass
  effectClass : EffectClass
  (policyEvaluationRequired approvalRequired executionGrantRequired : Bool)
  (isolatedRunnerRequired independentVerificationRequired : Bool)
  defaultDisposition : AuthorityDisposition
  requirementIdentity : String
deriving DecidableEq, Repr

namespace AuthorityRequirement

def claimFields (requirement : AuthorityRequirement) : List (String × Json) :=
  [("requirement_type", .str "security-intelligence-authority-requirement/v1"),
    ("risk_class", .str requirement.riskClass.value),
    ("effect_class", .str requirement.effectClass.value),
    ("policy_evaluation_required", .bool requirement.policyEvaluationRequired),
    ("approval_required", .bool requirement.approvalRequired),
    ("execution_grant_required", .bool requirement.executionGrantRequired),
    ("isolated_runner_required", .bool requirement.isolatedRunnerRequired),
    ("independent_verification_required", .bool requirement.independentVerificationRequired),
    ("default_disposition", .str requirement.defaultDisposition.value)]

def toDict (requirement : AuthorityRequirement) : Json :=
  .object (requirement.claimFields ++
    [("requirement_identity", .str requirement.requirementIdentity)])

def postInit (sha256 : Sha256) (requirement : AuthorityRequirement) : Except Raised Unit := do
  let isUnknown := requirement.riskClass = .unknown ∨ requirement.effectClass = .unknown
  raiseIf (requirement.policyEvaluationRequired = false)
    (valueError "VOP policy evaluation is mandatory")
  raiseIf (isUnknown ∧ requirement.defaultDisposition ≠ .unknown)
    (valueError "unknown classification must remain UNKNOWN")
  raiseIf (isUnknown ∧ requirement.approvalRequired = false)
    (valueError "unknown classification must fail closed")
  raiseIf (requirement.riskClass = .critical ∧ ¬isUnknown ∧ requirement.defaultDisposition ≠ .deny)
    (valueError "CRITICAL risk must default to DENY")
  raiseIf (requirement.effectClass ∈ activeEffects ∧
      (requirement.executionGrantRequired = false ∨ requirement.isolatedRunnerRequired = false))
    (valueError "active capability requires canonical grant and isolated Runner")
  raiseIf (requirement.effectClass ∈ mutationEffects ∧ (requirement.approvalRequired = false ∨
      requirement.independentVerificationRequired = false))
    (valueError "WRITE/EXECUTE requires approval and independent verification")
  raiseIf (requirement.effectClass ∈ mutationEffects ∧
      requirement.defaultDisposition ∉ [.requireHuman, .deny])
    (valueError "WRITE/EXECUTE must require human review or deny")
  let _ ← requireHexDigest (.str requirement.requirementIdentity) "requirement_identity"
  raiseIf (requirement.requirementIdentity ≠
      digestOf sha256.hexdigest (.object requirement.claimFields))
    (valueError "requirement_identity does not match claims")

/-- The default disposition of a classification, and whether it requires an approval. -/
def disposed (riskClass : RiskClass) (effectClass : EffectClass) : AuthorityDisposition × Bool :=
  if riskClass = .unknown ∨ effectClass = .unknown then (.unknown, true)
  else if riskClass = .critical then (.deny, true)
  else if effectClass ∈ mutationEffects ∨ riskClass = .high then (.requireHuman, true)
  else (.requireVopEvaluation, false)

/-- What `classify` makes of a classification, before its constructor checks it. -/
def classified (sha256 : Sha256) (riskClass : RiskClass) (effectClass : EffectClass) :
    AuthorityRequirement :=
  let active := decide (effectClass ∈ activeEffects)
  let draft : AuthorityRequirement := ⟨riskClass, effectClass, true,
    (disposed riskClass effectClass).2, active, active, decide (effectClass ∈ mutationEffects),
    (disposed riskClass effectClass).1, ""⟩
  { draft with requirementIdentity := digestOf sha256.hexdigest (.object draft.claimFields) }

def classify (sha256 : Sha256) (riskClass : RiskClass) (effectClass : EffectClass) :
    Except Raised AuthorityRequirement := do
  let requirement := classified sha256 riskClass effectClass
  requirement.postInit sha256
  return requirement

/-- The constructor takes every classification but one: an unknown risk with an effect that
mutates, whose disposition must be UNKNOWN and must be a review or a denial. -/
theorem classify_eq_ok {sha256 : Sha256} {riskClass : RiskClass} {effectClass : EffectClass}
    {requirement : AuthorityRequirement} :
    classify sha256 riskClass effectClass = .ok requirement ↔
      ¬(riskClass = .unknown ∧ effectClass ∈ mutationEffects) ∧
        requirement = classified sha256 riskClass effectClass := by
  simp only [classify, postInit, bind_eq_ok, raiseIf_eq_ok, pure_eq_ok, requireHexDigest_eq_ok,
    Json.str.injEq, exists_const]
  rw [eq_comm (b := requirement)]
  refine and_congr_left fun _ => ?_
  cases riskClass <;> cases effectClass <;>
    simp [classified, disposed, activeEffects, mutationEffects, digestOf, sha256.isDigest,
      claimFields]

end AuthorityRequirement

structure CapabilityManifest where
  (capabilityId skillId sourceCapability : String)
  effectClass : EffectClass
  resourceScope : String
  riskClass : RiskClass
  requiredAuthority : AuthorityRequirement
  (sandboxConstraints evidenceRefs : List String)
  (normalizationStatus manifestIdentity : String)
deriving DecidableEq, Repr

namespace CapabilityManifest

def claimsWithoutIdentity (manifest : CapabilityManifest) : Json :=
  .object [("manifest_type", .str "security-intelligence-capability-manifest/v1"),
    ("capability_id", .str manifest.capabilityId), ("skill_id", .str manifest.skillId),
    ("source_capability", .str manifest.sourceCapability),
    ("effect_class", .str manifest.effectClass.value),
    ("resource_scope", .str manifest.resourceScope),
    ("risk_class", .str manifest.riskClass.value),
    ("required_authority", manifest.requiredAuthority.toDict),
    ("sandbox_constraints", textItems manifest.sandboxConstraints),
    ("evidence_refs", textItems manifest.evidenceRefs),
    ("normalization_status", .str manifest.normalizationStatus)]

def postInit (sha256 : Sha256) (manifest : CapabilityManifest) : Except Raised Unit := do
  raiseIf (matchesCapability manifest.capabilityId = false) (valueError "capability_id is invalid")
  raiseIf (matchesSkillId manifest.skillId = false) (valueError "skill_id is invalid")
  requireTextFields [("source_capability", manifest.sourceCapability),
    ("resource_scope", manifest.resourceScope)]
  raiseIf (manifest.requiredAuthority.effectClass ≠ manifest.effectClass)
    (valueError "required authority effect_class mismatch")
  raiseIf (manifest.requiredAuthority.riskClass ≠ manifest.riskClass)
    (valueError "required authority risk_class mismatch")
  requireSortedUniqueText manifest.sandboxConstraints "sandbox_constraints" true
  requireSortedUniqueText manifest.evidenceRefs "evidence_refs" true
  raiseIf (manifest.effectClass ∈ activeEffects ∧ manifest.sandboxConstraints = [])
    (valueError "active capability requires sandbox constraints")
  raiseIf (manifest.normalizationStatus ∉ ["NORMALIZED", "UNKNOWN"])
    (valueError "normalization_status is invalid")
  raiseIf (manifest.evidenceRefs = [] ∧ manifest.normalizationStatus ≠ "UNKNOWN")
    (valueError "evidence-less capability must remain UNKNOWN")
  let _ ← requireHexDigest (.str manifest.manifestIdentity) "manifest_identity"
  raiseIf (manifest.manifestIdentity ≠ digestOf sha256.hexdigest manifest.claimsWithoutIdentity)
    (valueError "manifest_identity does not match capability manifest")

def create (sha256 : Sha256) (capabilityId skillId sourceCapability : String)
    (effectClass : EffectClass) (resourceScope : String) (riskClass : RiskClass)
    (sandboxConstraints evidenceRefs : List String) (normalizationStatus : String) :
    Except Raised CapabilityManifest := do
  let authority ← AuthorityRequirement.classify sha256 riskClass effectClass
  let draft : CapabilityManifest := ⟨capabilityId, skillId, sourceCapability, effectClass,
    resourceScope, riskClass, authority, sortedUnique sandboxConstraints,
    sortedUnique evidenceRefs, normalizationStatus, ""⟩
  let manifest := { draft with
    manifestIdentity := digestOf sha256.hexdigest draft.claimsWithoutIdentity }
  manifest.postInit sha256
  return manifest

theorem create_eq_ok {sha256 : Sha256} {capabilityId skillId sourceCapability : String}
    {effectClass : EffectClass} {resourceScope : String} {riskClass : RiskClass}
    {sandboxConstraints evidenceRefs : List String} {normalizationStatus : String}
    {manifest : CapabilityManifest} :
    create sha256 capabilityId skillId sourceCapability effectClass resourceScope riskClass
        sandboxConstraints evidenceRefs normalizationStatus = .ok manifest ↔
      (matchesCapability capabilityId = true ∧ matchesSkillId skillId = true ∧
        ValidText sourceCapability ∧ ValidText resourceScope ∧
        (∀ text ∈ sandboxConstraints, ValidText text) ∧ (∀ text ∈ evidenceRefs, ValidText text) ∧
        ¬(riskClass = .unknown ∧ effectClass ∈ mutationEffects) ∧
        (effectClass ∈ activeEffects → sandboxConstraints ≠ []) ∧
        normalizationStatus ∈ ["NORMALIZED", "UNKNOWN"] ∧
        (evidenceRefs = [] → normalizationStatus = "UNKNOWN")) ∧
      ∃ draft : CapabilityManifest, draft = ⟨capabilityId, skillId, sourceCapability, effectClass,
          resourceScope, riskClass, .classified sha256 riskClass effectClass,
          sortedUnique sandboxConstraints, sortedUnique evidenceRefs, normalizationStatus, ""⟩ ∧
        manifest = { draft with
          manifestIdentity := digestOf sha256.hexdigest draft.claimsWithoutIdentity } := by
  simp only [create, postInit, bind_eq_ok, AuthorityRequirement.classify_eq_ok, raiseIf_eq_ok,
    pure_eq_ok, requireTextFields_eq_ok, requireSortedUniqueText_eq_ok, requireHexDigest_eq_ok,
    List.forall_mem_cons]
  constructor
  · rintro ⟨_, ⟨mutation, rfl⟩, _, ⟨_, capability, _, skill, _, texts, _, -, _, -, _, constraints,
      _, evidence, _, active, _, status, _, unevidenced, -⟩, rfl⟩
    refine ⟨⟨by simpa using capability, by simpa using skill, texts.1, texts.2.1, constraints.2,
      evidence.2, mutation, fun effect none => active ⟨effect, sortedUnique_eq_nil.mpr none⟩,
      not_not.mp status, fun none => ?_⟩, _, rfl, rfl⟩
    by_contra other
    exact unevidenced ⟨sortedUnique_eq_nil.mpr none, other⟩
  · rintro ⟨⟨capability, skill, source, scope, constraints, evidence, mutation, active, status,
      unevidenced⟩, draft, rfl, rfl⟩
    refine ⟨_, ⟨mutation, rfl⟩, (), ⟨(), by simp [capability], (), by simp [skill], (),
      ⟨source, scope, List.forall_mem_nil _⟩, (), fun differs => differs rfl, (),
      fun differs => differs rfl, (), ⟨fun none => (by cases none), constraints⟩, (),
      ⟨fun none => (by cases none), evidence⟩, (), ?_, (), not_not.mpr status, (), ?_, _,
      ⟨rfl, sha256.isDigest _⟩, not_not.mpr rfl⟩, rfl⟩
    · exact fun both => active both.1 (sortedUnique_eq_nil.mp both.2)
    · exact fun both => both.2 (unevidenced (sortedUnique_eq_nil.mp both.1))

end CapabilityManifest

structure SkillManifest where
  (skillId version source domain : String)
  capabilityIds : List String
  riskClass : RiskClass
  (authorityRequirements frameworkMappings : List String)
  (evidenceRequirements verificationRequirements : List String)
  contentRef : String
  status : SkillStatus
  manifestIdentity : String
deriving DecidableEq, Repr

namespace SkillManifest

def claimsWithoutIdentity (manifest : SkillManifest) : Json :=
  .object [("manifest_type", .str "security-intelligence-skill-manifest/v1"),
    ("skill_id", .str manifest.skillId), ("version", .str manifest.version),
    ("source", .str manifest.source), ("domain", .str manifest.domain),
    ("capability_ids", textItems manifest.capabilityIds),
    ("risk_class", .str manifest.riskClass.value),
    ("authority_requirements", textItems manifest.authorityRequirements),
    ("framework_mappings", textItems manifest.frameworkMappings),
    ("evidence_requirements", textItems manifest.evidenceRequirements),
    ("verification_requirements", textItems manifest.verificationRequirements),
    ("content_ref", .str manifest.contentRef), ("status", .str manifest.status.value)]

def postInit (sha256 : Sha256) (manifest : SkillManifest) : Except Raised Unit := do
  raiseIf (matchesSkillId manifest.skillId = false) (valueError "skill_id is invalid")
  requireTextFields [("version", manifest.version), ("source", manifest.source),
    ("domain", manifest.domain), ("content_ref", manifest.contentRef)]
  requireSortedUniqueText manifest.capabilityIds "capability_ids" false
  forEach (fun capabilityId =>
    raiseIf (matchesCapability capabilityId = false) (valueError "capability_id is invalid"))
    manifest.capabilityIds
  requireSortedUniqueText manifest.authorityRequirements "authority_requirements" false
  requireSortedUniqueText manifest.frameworkMappings "framework_mappings" true
  requireSortedUniqueText manifest.evidenceRequirements "evidence_requirements" false
  requireSortedUniqueText manifest.verificationRequirements "verification_requirements" false
  let _ ← requireHexDigest (.str manifest.manifestIdentity) "manifest_identity"
  raiseIf (manifest.manifestIdentity ≠ digestOf sha256.hexdigest manifest.claimsWithoutIdentity)
    (valueError "manifest_identity does not match skill manifest")

/-- `create`, of a draft whose lists need be neither sorted nor unique. -/
def create (sha256 : Sha256) (draft : SkillManifest) : Except Raised SkillManifest := do
  let sorted := { draft with
    capabilityIds := sortedUnique draft.capabilityIds
    authorityRequirements := sortedUnique draft.authorityRequirements
    frameworkMappings := sortedUnique draft.frameworkMappings
    evidenceRequirements := sortedUnique draft.evidenceRequirements
    verificationRequirements := sortedUnique draft.verificationRequirements }
  let manifest := { sorted with
    manifestIdentity := digestOf sha256.hexdigest sorted.claimsWithoutIdentity }
  manifest.postInit sha256
  return manifest

theorem create_eq_ok {sha256 : Sha256} {draft manifest : SkillManifest} :
    create sha256 draft = .ok manifest ↔ (matchesSkillId draft.skillId = true ∧
        (ValidText draft.version ∧ ValidText draft.source ∧ ValidText draft.domain ∧
          ValidText draft.contentRef) ∧
        (draft.capabilityIds ≠ [] ∧ ∀ id ∈ draft.capabilityIds, matchesCapability id = true) ∧
        (draft.authorityRequirements ≠ [] ∧ ∀ text ∈ draft.authorityRequirements, ValidText text) ∧
        (∀ text ∈ draft.frameworkMappings, ValidText text) ∧
        (draft.evidenceRequirements ≠ [] ∧ ∀ text ∈ draft.evidenceRequirements, ValidText text) ∧
        draft.verificationRequirements ≠ [] ∧
          ∀ text ∈ draft.verificationRequirements, ValidText text) ∧
      ∃ sorted : SkillManifest, sorted = { draft with
          capabilityIds := sortedUnique draft.capabilityIds
          authorityRequirements := sortedUnique draft.authorityRequirements
          frameworkMappings := sortedUnique draft.frameworkMappings
          evidenceRequirements := sortedUnique draft.evidenceRequirements
          verificationRequirements := sortedUnique draft.verificationRequirements } ∧
        manifest = { sorted with
          manifestIdentity := digestOf sha256.hexdigest sorted.claimsWithoutIdentity } := by
  simp only [create, postInit, bind_eq_ok, raiseIf_eq_ok, pure_eq_ok, requireTextFields_eq_ok,
    requireSortedUniqueText_eq_ok, requireHexDigest_eq_ok, List.forall_mem_cons, forEach_eq_ok,
    mem_sortedUnique, Bool.not_eq_false, true_imp_iff]
  constructor
  · rintro ⟨_, ⟨_, skill, _, texts, _, capabilities, _, named, _, authorities, _, mappings, _,
      evidence, _, verification, -⟩, rfl⟩
    exact ⟨⟨skill, ⟨texts.1, texts.2.1, texts.2.2.1, texts.2.2.2.1⟩, ⟨capabilities.1, named⟩,
      authorities, mappings.2, evidence, verification⟩, _, rfl, rfl⟩
  · rintro ⟨⟨skill, texts, capabilities, authorities, mappings, evidence, verification⟩, sorted,
      rfl, rfl⟩
    exact ⟨(), ⟨(), skill, (), ⟨texts.1, texts.2.1, texts.2.2.1, texts.2.2.2,
      List.forall_mem_nil _⟩, (),
      ⟨capabilities.1, fun id listed => validText_of_matchesCapability (capabilities.2 id listed)⟩,
      (), capabilities.2, (), authorities, (), ⟨fun none => (by cases none), mappings⟩, (),
      evidence, (), verification, _, ⟨rfl, sha256.isDigest _⟩, not_not.mpr rfl⟩, rfl⟩

end SkillManifest

end VoodooOne.SecurityIntelligence
