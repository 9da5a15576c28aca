import VoodooOne.Rollback.Control
import VoodooOne.Runtime.Conformance

/-!
# Making a runner boundary

A boundary is made of a runner, a lease, a capsule and a definition that fit together.  The
boundary of a reader needs nothing else; that of a writer also needs the requirement of the write.
-/

namespace VoodooOne

def githubCreateRefCapability : String := "github.create-ref/v1"

def githubCreateRefHandler : String := "github-create-ref-handler/v1"

def createOnlySemantics : String := "CREATE_ONLY"

def deleteExactCreatedRefRollback : String := "DELETE_EXACT_CREATED_REF"

def controlledWriteDenied (reason : String) : Raised := ⟨.controlledWriteDenied, reason⟩

/-- `GitHubCreateRefConditionContract`.  Which references may be created, and how. -/
structure GitHubCreateRefConditionContract where
  (provider operation targetKind refNamespacePrefix createSemantics : String)
  (overwriteExistingRefAllowed forceUpdateAllowed : Json)
  (rollbackStrategy verificationClass contractRevision contractDigest : String)
deriving DecidableEq

namespace GitHubCreateRefConditionContract

/-- `_claims`, apart from version and type. -/
def claims (condition : GitHubCreateRefConditionContract) : List (String × Json) :=
  [("provider", .str condition.provider),
    ("operation", .str condition.operation),
    ("target_kind", .str condition.targetKind),
    ("ref_namespace_prefix", .str condition.refNamespacePrefix),
    ("create_semantics", .str condition.createSemantics),
    ("overwrite_existing_ref_allowed", condition.overwriteExistingRefAllowed),
    ("force_update_allowed", condition.forceUpdateAllowed),
    ("rollback_strategy", .str condition.rollbackStrategy),
    ("verification_class", .str condition.verificationClass),
    ("contract_revision", .str condition.contractRevision)]

def ofAttributes (self : Attributes) : GitHubCreateRefConditionContract where
  provider := self.text "provider"
  operation := self.text "operation"
  targetKind := self.text "target_kind"
  refNamespacePrefix := self.text "ref_namespace_prefix"
  createSemantics := self.text "create_semantics"
  overwriteExistingRefAllowed := self "overwrite_existing_ref_allowed"
  forceUpdateAllowed := self "force_update_allowed"
  rollbackStrategy := self.text "rollback_strategy"
  verificationClass := self.text "verification_class"
  contractRevision := self.text "contract_revision"
  contractDigest := self.text "contract_digest"

def contract : Contract GitHubCreateRefConditionContract where
  contractType := "github-create-ref-condition/v1"
  typeField := "condition_type"
  digestField := "contract_digest"
  mismatch := "contract_digest does not match GitHub create-ref condition"
  attributes :=
    ["provider", "operation", "target_kind", "ref_namespace_prefix", "create_semantics",
      "overwrite_existing_ref_allowed", "force_update_allowed", "rollback_strategy",
      "verification_class", "contract_revision"].map
      fun field => (field, if field ∈ ["overwrite_existing_ref_allowed", "force_update_allowed"]
        then .any else .text)
  checks :=
    requireTexts ["provider", "operation", "target_kind", "ref_namespace_prefix",
      "create_semantics", "rollback_strategy", "verification_class", "contract_revision"] ++
    [.equals "provider" githubProvider "F1 provider must be github",
      .equals "operation" createRefOperation "F1 operation must be CREATE_REF",
      .equals "target_kind" githubRefTargetKind "F1 target kind must be git_ref",
      .equals "ref_namespace_prefix" vOneCanaryRefPrefix
        "F1 ref namespace must be the V-One canary namespace",
      .equals "create_semantics" createOnlySemantics "F1 create semantics must be CREATE_ONLY",
      .satisfies "overwrite_existing_ref_allowed"
        (requireTruth false "F1 must not overwrite an existing ref"),
      .satisfies "force_update_allowed" (requireTruth false "F1 must not force-update a ref"),
      .equals "rollback_strategy" deleteExactCreatedRefRollback
        "F1 rollback strategy is unsupported",
      .equals "verification_class" providerReadVerificationClass
        "F1 verification class must use provider readback",
      .digest "contract_digest"]
  ofAttributes := ofAttributes
  claims := claims
  digest := contractDigest
  withDigest condition digest := { condition with contractDigest := digest }
  check _ _ := .ok ()

def create (sha256 : String → String) (contractRevision : String) :
    Except Raised GitHubCreateRefConditionContract := do
  let _ ← requireText (.str contractRevision) "contract_revision"
  contract.create sha256
    { provider := githubProvider
      operation := createRefOperation
      targetKind := githubRefTargetKind
      refNamespacePrefix := vOneCanaryRefPrefix
      createSemantics := createOnlySemantics
      overwriteExistingRefAllowed := .bool false
      forceUpdateAllowed := .bool false
      rollbackStrategy := deleteExactCreatedRefRollback
      verificationClass := providerReadVerificationClass
      contractRevision
      contractDigest := "" }

theorem lawful : contract.Lawful where
  ofAttributes_eq self condition digest same := by
    simp only [contract, claims, List.cons_append, List.nil_append, List.forall_mem_cons] at same
    simp [contract, ofAttributes, Attributes.text, Json.text?, same]

end GitHubCreateRefConditionContract

/-- `ControlledWriteRequirement`.  What creating a reference needs of its capability and capsule. -/
structure ControlledWriteRequirement where
  (capabilityDefinitionIdentity executionCapsuleDigest : String)
  (handlerConformanceEvidenceDigest atomicProviderConditionContractIdentity : String)
  (verificationContractIdentity effectClass : String)
  maxProviderMutations : Json
  rollbackStrategy : String
  providerMutationAllowed : Json
  (requirementRevision requirementDigest : String)
deriving DecidableEq

namespace ControlledWriteRequirement

/-- `_claims`, apart from version and type. -/
def claims (requirement : ControlledWriteRequirement) : List (String × Json) :=
  [("capability_definition_identity", .str requirement.capabilityDefinitionIdentity),
    ("execution_capsule_digest", .str requirement.executionCapsuleDigest),
    ("handler_conformance_evidence_digest", .str requirement.handlerConformanceEvidenceDigest),
    ("atomic_provider_condition_contract_identity",
      .str requirement.atomicProviderConditionContractIdentity),
    ("verification_contract_identity", .str requirement.verificationContractIdentity),
    ("effect_class", .str requirement.effectClass),
    ("max_provider_mutations", requirement.maxProviderMutations),
    ("rollback_strategy", .str requirement.rollbackStrategy),
    ("provider_mutation_allowed", requirement.providerMutationAllowed),
    ("requirement_revision", .str requirement.requirementRevision)]

def ofAttributes (self : Attributes) : ControlledWriteRequirement where
  capabilityDefinitionIdentity := self.text "capability_definition_identity"
  executionCapsuleDigest := self.text "execution_capsule_digest"
  handlerConformanceEvidenceDigest := self.text "handler_conformance_evidence_digest"
  atomicProviderConditionContractIdentity := self.text "atomic_provider_condition_contract_identity"
  verificationContractIdentity := self.text "verification_contract_identity"
  effectClass := self.text "effect_class"
  maxProviderMutations := self "max_provider_mutations"
  rollbackStrategy := self.text "rollback_strategy"
  providerMutationAllowed := self "provider_mutation_allowed"
  requirementRevision := self.text "requirement_revision"
  requirementDigest := self.text "requirement_digest"

def contract : Contract ControlledWriteRequirement where
  contractType := "controlled-write-requirement/v1"
  typeField := "requirement_type"
  digestField := "requirement_digest"
  mismatch := "requirement_digest does not match controlled write requirement"
  attributes :=
    ["capability_definition_identity", "execution_capsule_digest",
      "handler_conformance_evidence_digest", "atomic_provider_condition_contract_identity",
      "verification_contract_identity", "effect_class", "max_provider_mutations",
      "rollback_strategy", "provider_mutation_allowed", "requirement_revision"].map
      fun field => (field, if field ∈ ["max_provider_mutations", "provider_mutation_allowed"] then
        .any else .text)
  checks :=
    requireDigests ["capability_definition_identity", "execution_capsule_digest",
      "handler_conformance_evidence_digest", "atomic_provider_condition_contract_identity",
      "verification_contract_identity", "requirement_digest"] ++
    requireTexts ["effect_class", "rollback_strategy", "requirement_revision"] ++
    [.equals "effect_class" mutationReversibleEffectClass
        "F1 effect class must be mutation.reversible",
      .satisfies "max_provider_mutations"
        (requireOne "F1 allows exactly one provider mutation"),
      .equals "rollback_strategy" deleteExactCreatedRefRollback
        "F1 rollback strategy is unsupported",
      .satisfies "provider_mutation_allowed"
        (requireTruth true "F1 requirement must describe an explicitly write-capable candidate")]
  ofAttributes := ofAttributes
  claims := claims
  digest := requirementDigest
  withDigest requirement digest := { requirement with requirementDigest := digest }
  check _ _ := .ok ()

def create (sha256 : String → String) (definition : CapabilityDefinition)
    (capsule : ExecutionCapsule) (evidence : HandlerConformanceEvidence)
    (condition : GitHubCreateRefConditionContract) (requirementRevision : String) :
    Except Raised ControlledWriteRequirement := do
  let _ ← requireText (.str requirementRevision) "requirement_revision"
  raiseIf (definition.capability ≠ githubCreateRefCapability)
    (controlledWriteDenied "F1_CAPABILITY_NOT_GITHUB_CREATE_REF")
  raiseIf (definition.targetKind ≠ githubRefTargetKind)
    (controlledWriteDenied "F1_TARGET_KIND_MISMATCH")
  raiseIf (definition.handlerId ≠ githubCreateRefHandler)
    (controlledWriteDenied "F1_HANDLER_MISMATCH")
  raiseIf (definition.effectClass ≠ mutationReversibleEffectClass)
    (controlledWriteDenied "F1_EFFECT_NOT_REVERSIBLE_MUTATION")
  raiseIf (definition.verificationClass ≠ providerReadVerificationClass)
    (controlledWriteDenied "F1_VERIFICATION_CLASS_MISMATCH")
  raiseIf (definition.productionEligible = true)
    (controlledWriteDenied "F1_PRODUCTION_ELIGIBILITY_FORBIDDEN")
  raiseIf (definition.supportedEnvironments ≠ [stagingEnvironment])
    (controlledWriteDenied "F1_ENVIRONMENT_NOT_STAGING_ONLY")
  raiseIf ([capsule.capabilityDefinitionIdentity, capsule.targetKind, capsule.handlerId,
        capsule.preconditionEnforcementClass, capsule.verificationClass] ≠
      [definition.definitionIdentity, definition.targetKind, definition.handlerId,
        atomicProviderCondition, definition.verificationClass])
    (controlledWriteDenied "F1_CAPSULE_BINDING_MISMATCH")
  raiseIf (evidence.bound ≠ HandlerConformanceEvidence.expected capsule)
    (controlledWriteDenied "F1_HANDLER_EVIDENCE_BINDING_MISMATCH")
  raiseIf (evidence.atomicProviderConditionContractIdentity ≠ .str condition.contractDigest)
    (controlledWriteDenied "F1_ATOMIC_PROVIDER_CONDITION_MISMATCH")
  raiseIf (capsule.verificationContractIdentity ≠ evidence.verificationContractIdentity)
    (controlledWriteDenied "F1_VERIFICATION_CONTRACT_MISMATCH")
  contract.create sha256
    { capabilityDefinitionIdentity := definition.definitionIdentity
      executionCapsuleDigest := capsule.capsuleDigest
      handlerConformanceEvidenceDigest := evidence.evidenceDigest
      atomicProviderConditionContractIdentity := condition.contractDigest
      verificationContractIdentity := capsule.verificationContractIdentity
      effectClass := mutationReversibleEffectClass
      maxProviderMutations := .int maxProviderMutationsR1
      rollbackStrategy := condition.rollbackStrategy
      providerMutationAllowed := .bool true
      requirementRevision
      requirementDigest := "" }

end ControlledWriteRequirement

def runnerBoundaryDenied (reason : String) : Raised := ⟨.runnerBoundaryDenied, reason⟩

def writeBoundaryDenied (reason : String) : Raised := ⟨.writeBoundaryDenied, reason⟩

namespace RunnerBoundary

/-- `_claims`, apart from version and type. -/
def claims (boundary : RunnerBoundary) : List (String × Json) :=
  [("runner_id", .str boundary.runnerId),
    ("runner_identity_digest", .str boundary.runnerIdentityDigest),
    ("lease_id", .str boundary.leaseId),
    ("lease_digest", .str boundary.leaseDigest),
    ("admission_id", .str boundary.admissionId),
    ("execution_id", .str boundary.executionId),
    ("execution_epoch", .int boundary.executionEpoch),
    ("execution_capsule_digest", .str boundary.executionCapsuleDigest),
    ("capability_definition_identity", .str boundary.capabilityDefinitionIdentity),
    ("environment", .str boundary.environment),
    ("runner_class", .str boundary.runnerClass),
    ("credential_class", .str boundary.credentialClass),
    ("effect_ceiling", .str boundary.effectCeiling),
    ("network_egress_default", .str boundary.networkEgressDefault),
    ("provider_mutation_allowed", boundary.providerMutationAllowed),
    ("boundary_revision", .str boundary.boundaryRevision)]

def ofAttributes (self : Attributes) : RunnerBoundary where
  runnerId := self.text "runner_id"
  runnerIdentityDigest := self.text "runner_identity_digest"
  leaseId := self.text "lease_id"
  leaseDigest := self.text "lease_digest"
  admissionId := self.text "admission_id"
  executionId := self.text "execution_id"
  executionEpoch := self.int "execution_epoch"
  executionCapsuleDigest := self.text "execution_capsule_digest"
  capabilityDefinitionIdentity := self.text "capability_definition_identity"
  environment := self.text "environment"
  runnerClass := self.text "runner_class"
  credentialClass := self.text "credential_class"
  effectCeiling := self.text "effect_ceiling"
  networkEgressDefault := self.text "network_egress_default"
  providerMutationAllowed := self "provider_mutation_allowed"
  boundaryRevision := self.text "boundary_revision"
  boundaryDigest := self.text "boundary_digest"

def contract : Contract RunnerBoundary where
  contractType := "runner-boundary/v1"
  typeField := "boundary_type"
  digestField := "boundary_digest"
  mismatch := "boundary_digest does not match RunnerBoundary"
  attributes :=
    ["runner_id", "runner_identity_digest", "lease_id", "lease_digest", "admission_id",
      "execution_id", "execution_epoch", "execution_capsule_digest",
      "capability_definition_identity", "environment", "runner_class", "credential_class",
      "effect_ceiling", "network_egress_default", "provider_mutation_allowed",
      "boundary_revision"].map
      fun field => (field, if field = "execution_epoch" then .integer else
        if field = "provider_mutation_allowed" then .any else .text)
  checks :=
    requireDigests ["runner_id", "runner_identity_digest", "lease_id", "lease_digest",
      "admission_id", "execution_capsule_digest", "capability_definition_identity",
      "boundary_digest"] ++
    requireTexts ["execution_id", "environment", "runner_class", "credential_class",
      "boundary_revision"] ++
    [.oneOf "environment" validEnvironments "environment is invalid",
      .satisfies "execution_epoch" requireIntegerEpoch,
      .integer "execution_epoch" 1 "execution_epoch must be >= 1",
      .equals "effect_ceiling" readOnlyEffectClass "Phase-D effect ceiling must be READ_ONLY",
      .equals "network_egress_default" denyAllNetworkDefault
        "Phase-D network default must be DENY_ALL",
      .satisfies "provider_mutation_allowed"
        (requireTruth false "Phase-D provider mutation must remain disabled")]
  ofAttributes := ofAttributes
  claims := claims
  digest := boundaryDigest
  withDigest boundary digest := { boundary with boundaryDigest := digest }
  check _ _ := .ok ()

theorem lawful : contract.Lawful where
  ofAttributes_eq self boundary digest same := by
    simp only [contract, claims, List.cons_append, List.nil_append, List.forall_mem_cons] at same
    simp [contract, ofAttributes, Attributes.text, Attributes.int, Json.text?, same]

def create (sha256 : String → String) (identity : RunnerIdentity) (lease : ExecutionLease)
    (capsule : ExecutionCapsule) (definition : CapabilityDefinition) (boundaryRevision : String) :
    Except Raised RunnerBoundary := do
  let _ ← requireText (.str boundaryRevision) "boundary_revision"
  identity.assertBoundToLease lease
  raiseIf (capsule.capsuleDigest ≠ lease.executionCapsuleDigest)
    (runnerBoundaryDenied "EXECUTION_CAPSULE_MISMATCH")
  raiseIf (capsule.runnerClass ≠ lease.runnerClass)
    (runnerBoundaryDenied "CAPSULE_RUNNER_CLASS_MISMATCH")
  raiseIf (identity.rootfsDigest ≠ capsule.rootfsDigest)
    (runnerBoundaryDenied "RUNNER_ROOTFS_MISMATCH")
  raiseIf (identity.resourceLimitProfileDigest ≠ capsule.resourceLimitProfileDigest)
    (runnerBoundaryDenied "RUNNER_RESOURCE_PROFILE_MISMATCH")
  raiseIf (identity.networkPolicyDigest ≠ capsule.networkPolicyDigest)
    (runnerBoundaryDenied "RUNNER_NETWORK_POLICY_MISMATCH")
  raiseIf (definition.definitionIdentity ≠ capsule.capabilityDefinitionIdentity)
    (runnerBoundaryDenied "CAPABILITY_DEFINITION_MISMATCH")
  raiseIf (definition.targetKind ≠ capsule.targetKind)
    (runnerBoundaryDenied "CAPABILITY_TARGET_KIND_MISMATCH")
  raiseIf (definition.handlerId ≠ capsule.handlerId)
    (runnerBoundaryDenied "CAPABILITY_HANDLER_MISMATCH")
  raiseIf (definition.effectClass ≠ readOnlyEffectClass)
    (runnerBoundaryDenied "PHASE_D_EFFECT_NOT_READ_ONLY")
  raiseIf (lease.environment ∉ definition.supportedEnvironments)
    (runnerBoundaryDenied "CAPABILITY_ENVIRONMENT_MISMATCH")
  contract.create sha256
    { runnerId := identity.runnerId
      runnerIdentityDigest := identity.identityDigest
      leaseId := lease.leaseId
      leaseDigest := lease.leaseDigest
      admissionId := lease.admissionId
      executionId := lease.executionId
      executionEpoch := lease.executionEpoch
      executionCapsuleDigest := capsule.capsuleDigest
      capabilityDefinitionIdentity := definition.definitionIdentity
      environment := lease.environment
      runnerClass := lease.runnerClass
      credentialClass := capsule.credentialClass
      effectCeiling := readOnlyEffectClass
      networkEgressDefault := denyAllNetworkDefault
      providerMutationAllowed := .bool false
      boundaryRevision
      boundaryDigest := "" }

end RunnerBoundary

namespace RunnerBoundaryV2

/-- `_claims`, apart from version and type. -/
def claims (boundary : RunnerBoundaryV2) : List (String × Json) :=
  [("runner_id", .str boundary.runnerId),
    ("runner_identity_digest", .str boundary.runnerIdentityDigest),
    ("lease_id", .str boundary.leaseId),
    ("lease_digest", .str boundary.leaseDigest),
    ("admission_id", .str boundary.admissionId),
    ("execution_id", .str boundary.executionId),
    ("execution_epoch", boundary.executionEpoch),
    ("execution_capsule_digest", .str boundary.executionCapsuleDigest),
    ("capability_definition_identity", .str boundary.capabilityDefinitionIdentity),
    ("controlled_write_requirement_digest", .str boundary.controlledWriteRequirementDigest),
    ("atomic_provider_condition_contract_identity",
      .str boundary.atomicProviderConditionContractIdentity),
    ("verification_contract_identity", .str boundary.verificationContractIdentity),
    ("environment", .str boundary.environment),
    ("runner_class", .str boundary.runnerClass),
    ("credential_class", .str boundary.credentialClass),
    ("effect_ceiling", .str boundary.effectCeiling),
    ("network_egress_default", .str boundary.networkEgressDefault),
    ("provider_mutation_allowed", boundary.providerMutationAllowed),
    ("max_provider_mutations", boundary.maxProviderMutations),
    ("rollback_strategy", .str boundary.rollbackStrategy),
    ("boundary_revision", .str boundary.boundaryRevision)]

def ofAttributes (self : Attributes) : RunnerBoundaryV2 where
  runnerId := self.text "runner_id"
  runnerIdentityDigest := self.text "runner_identity_digest"
  leaseId := self.text "lease_id"
  leaseDigest := self.text "lease_digest"
  admissionId := self.text "admission_id"
  executionId := self.text "execution_id"
  executionEpoch := self "execution_epoch"
  executionCapsuleDigest := self.text "execution_capsule_digest"
  capabilityDefinitionIdentity := self.text "capability_definition_identity"
  controlledWriteRequirementDigest := self.text "controlled_write_requirement_digest"
  atomicProviderConditionContractIdentity := self.text "atomic_provider_condition_contract_identity"
  verificationContractIdentity := self.text "verification_contract_identity"
  environment := self.text "environment"
  runnerClass := self.text "runner_class"
  credentialClass := self.text "credential_class"
  effectCeiling := self.text "effect_ceiling"
  networkEgressDefault := self.text "network_egress_default"
  providerMutationAllowed := self "provider_mutation_allowed"
  maxProviderMutations := self "max_provider_mutations"
  rollbackStrategy := self.text "rollback_strategy"
  boundaryRevision := self.text "boundary_revision"
  boundaryDigest := self.text "boundary_digest"

def contract : Contract RunnerBoundaryV2 where
  schemaVersion := 2
  contractType := "runner-boundary/v2"
  typeField := "boundary_type"
  digestField := "boundary_digest"
  mismatch := "boundary_digest does not match runner-boundary/v2"
  attributes :=
    ["runner_id", "runner_identity_digest", "lease_id", "lease_digest", "admission_id",
      "execution_id", "execution_epoch", "execution_capsule_digest",
      "capability_definition_identity", "controlled_write_requirement_digest",
      "atomic_provider_condition_contract_identity", "verification_contract_identity",
      "environment", "runner_class", "credential_class", "effect_ceiling",
      "network_egress_default", "provider_mutation_allowed", "max_provider_mutations",
      "rollback_strategy", "boundary_revision"].map
      fun field => (field, if field ∈ ["execution_epoch", "provider_mutation_allowed",
        "max_provider_mutations"] then .any else .text)
  checks :=
    requireDigests ["runner_id", "runner_identity_digest", "lease_id", "lease_digest",
      "admission_id", "execution_capsule_digest", "capability_definition_identity",
      "controlled_write_requirement_digest", "atomic_provider_condition_contract_identity",
      "verification_contract_identity", "boundary_digest"] ++
    requireTexts ["execution_id", "environment", "runner_class", "credential_class",
      "effect_ceiling", "network_egress_default", "rollback_strategy", "boundary_revision"] ++
    [.satisfies "execution_epoch"
        (requirePositiveEpoch "execution_epoch must be an integer >= 1"),
      .equals "environment" stagingEnvironment "F2 write boundary is staging-only",
      .equals "runner_class" writeRunnerClass "F2 write runner class is invalid",
      .equals "credential_class" githubCreateRefCredentialClass "F2 credential class is invalid",
      .equals "effect_ceiling" mutationReversibleEffectClass
        "F2 effect ceiling must be mutation.reversible",
      .equals "network_egress_default" denyAllNetworkDefault
        "F2 network default must be DENY_ALL",
      .satisfies "provider_mutation_allowed"
        (requireTruth true "F2 write boundary must explicitly permit the bounded mutation"),
      .satisfies "max_provider_mutations"
        (requireOne "F2 write boundary allows exactly one provider mutation"),
      .equals "rollback_strategy" deleteExactCreatedRefRollback
        "F2 rollback strategy is unsupported"]
  ofAttributes := ofAttributes
  claims := claims
  digest := boundaryDigest
  withDigest boundary digest := { boundary with boundaryDigest := digest }
  check _ _ := .ok ()

def create (sha256 : String → String) (identity : RunnerIdentity) (lease : ExecutionLease)
    (capsule : ExecutionCapsule) (definition : CapabilityDefinition)
    (evidence : HandlerConformanceEvidence) (condition : GitHubCreateRefConditionContract)
    (requirement : ControlledWriteRequirement) (boundaryRevision : String) :
    Except Raised RunnerBoundaryV2 := do
  let _ ← requireText (.str boundaryRevision) "boundary_revision"
  identity.assertBoundToLease lease
  raiseIf (identity.runnerClass ≠ writeRunnerClass)
    (writeBoundaryDenied "F2_RUNNER_CLASS_NOT_WRITE_SPECIFIC")
  raiseIf (lease.environment ≠ stagingEnvironment)
    (writeBoundaryDenied "F2_ENVIRONMENT_NOT_STAGING")
  raiseIf (capsule.capsuleDigest ≠ lease.executionCapsuleDigest)
    (writeBoundaryDenied "F2_EXECUTION_CAPSULE_MISMATCH")
  raiseIf (capsule.runnerClass ≠ lease.runnerClass)
    (writeBoundaryDenied "F2_CAPSULE_RUNNER_CLASS_MISMATCH")
  raiseIf (identity.rootfsDigest ≠ capsule.rootfsDigest)
    (writeBoundaryDenied "F2_RUNNER_ROOTFS_MISMATCH")
  raiseIf (identity.resourceLimitProfileDigest ≠ capsule.resourceLimitProfileDigest)
    (writeBoundaryDenied "F2_RUNNER_RESOURCE_PROFILE_MISMATCH")
  raiseIf (identity.networkPolicyDigest ≠ capsule.networkPolicyDigest)
    (writeBoundaryDenied "F2_RUNNER_NETWORK_POLICY_MISMATCH")
  raiseIf (definition.capability ≠ githubCreateRefCapability)
    (writeBoundaryDenied "F2_CAPABILITY_NOT_CREATE_REF")
  raiseIf (definition.definitionIdentity ≠ capsule.capabilityDefinitionIdentity)
    (writeBoundaryDenied "F2_CAPABILITY_DEFINITION_MISMATCH")
  raiseIf (definition.handlerId ≠ githubCreateRefHandler ∨ definition.handlerId ≠ capsule.handlerId)
    (writeBoundaryDenied "F2_HANDLER_MISMATCH")
  raiseIf (definition.effectClass ≠ mutationReversibleEffectClass)
    (writeBoundaryDenied "F2_EFFECT_NOT_REVERSIBLE_MUTATION")
  raiseIf (definition.productionEligible = true ∨
      definition.supportedEnvironments ≠ [stagingEnvironment])
    (writeBoundaryDenied "F2_CAPABILITY_NOT_STAGING_ONLY")
  raiseIf (capsule.preconditionEnforcementClass ≠ atomicProviderCondition)
    (writeBoundaryDenied "F2_ATOMIC_PROVIDER_CONDITION_REQUIRED")
  raiseIf (capsule.credentialClass ≠ githubCreateRefCredentialClass)
    (writeBoundaryDenied "F2_CREDENTIAL_CLASS_MISMATCH")
  raiseIf (¬([requirement.capabilityDefinitionIdentity, requirement.executionCapsuleDigest,
          requirement.handlerConformanceEvidenceDigest,
          requirement.atomicProviderConditionContractIdentity,
          requirement.verificationContractIdentity, requirement.effectClass,
          requirement.rollbackStrategy] =
        [definition.definitionIdentity, capsule.capsuleDigest, evidence.evidenceDigest,
          condition.contractDigest, capsule.verificationContractIdentity,
          mutationReversibleEffectClass, deleteExactCreatedRefRollback] ∧
      requirement.maxProviderMutations.equalsInt maxProviderMutationsR1 = true ∧
      requirement.providerMutationAllowed.equalsInt 1 = true))
    (writeBoundaryDenied "F2_CONTROLLED_WRITE_REQUIREMENT_MISMATCH")
  raiseIf (evidence.executionCapsuleDigest ≠ capsule.capsuleDigest)
    (writeBoundaryDenied "F2_HANDLER_EVIDENCE_CAPSULE_MISMATCH")
  raiseIf (evidence.atomicProviderConditionContractIdentity ≠ .str condition.contractDigest)
    (writeBoundaryDenied "F2_PROVIDER_CONDITION_MISMATCH")
  contract.create sha256
    { runnerId := identity.runnerId
      runnerIdentityDigest := identity.identityDigest
      leaseId := lease.leaseId
      leaseDigest := lease.leaseDigest
      admissionId := lease.admissionId
      executionId := lease.executionId
      executionEpoch := .int lease.executionEpoch
      executionCapsuleDigest := capsule.capsuleDigest
      capabilityDefinitionIdentity := definition.definitionIdentity
      controlledWriteRequirementDigest := requirement.requirementDigest
      atomicProviderConditionContractIdentity := condition.contractDigest
      verificationContractIdentity := capsule.verificationContractIdentity
      environment := lease.environment
      runnerClass := identity.runnerClass
      credentialClass := capsule.credentialClass
      effectCeiling := mutationReversibleEffectClass
      networkEgressDefault := denyAllNetworkDefault
      providerMutationAllowed := .bool true
      maxProviderMutations := .int maxProviderMutationsR1
      rollbackStrategy := requirement.rollbackStrategy
      boundaryRevision
      boundaryDigest := "" }

end RunnerBoundaryV2

end VoodooOne
