import VoodooOne.Pipeline.Prepared
import VoodooOne.Rollback.Control
import VoodooOne.Runtime.Conformance

/-!
# Preparing a rollback

From a prepared execution to the preflight of a deletion.  The runtime that the runner is to have
comes from the profile of the preparer.
-/

namespace VoodooOne

def outOfBandRollbackCredentialChannel : String := "out-of-band-rollback-secret-channel/v1"

/-- `EphemeralRollbackCredentialDelivery`.  A credential reached a runner. -/
structure EphemeralRollbackCredentialDelivery where
  (runnerId runnerBoundaryDigest credentialDecisionId credentialDecisionDigest : String)
  (providerInstanceId credentialProvider credentialClass audience accessMode : String)
  (providerOperation deliveryChannelIdentity deliveredAt clockWitnessDigest : String)
  secretMaterialExposed : Json
  (deliveryRevision deliveryDigest : String)
deriving DecidableEq

namespace EphemeralRollbackCredentialDelivery

/-- `_claims`, apart from version and type. -/
def claims (delivery : EphemeralRollbackCredentialDelivery) : List (String × Json) :=
  [("runner_id", .str delivery.runnerId),
    ("runner_boundary_digest", .str delivery.runnerBoundaryDigest),
    ("credential_decision_id", .str delivery.credentialDecisionId),
    ("credential_decision_digest", .str delivery.credentialDecisionDigest),
    ("provider_instance_id", .str delivery.providerInstanceId),
    ("credential_provider", .str delivery.credentialProvider),
    ("credential_class", .str delivery.credentialClass),
    ("audience", .str delivery.audience),
    ("access_mode", .str delivery.accessMode),
    ("provider_operation", .str delivery.providerOperation),
    ("delivery_channel_identity", .str delivery.deliveryChannelIdentity),
    ("delivered_at", .str delivery.deliveredAt),
    ("clock_witness_digest", .str delivery.clockWitnessDigest),
    ("secret_material_exposed", delivery.secretMaterialExposed),
    ("delivery_revision", .str delivery.deliveryRevision)]

def ofAttributes (self : Attributes) : EphemeralRollbackCredentialDelivery where
  runnerId := self.text "runner_id"
  runnerBoundaryDigest := self.text "runner_boundary_digest"
  credentialDecisionId := self.text "credential_decision_id"
  credentialDecisionDigest := self.text "credential_decision_digest"
  providerInstanceId := self.text "provider_instance_id"
  credentialProvider := self.text "credential_provider"
  credentialClass := self.text "credential_class"
  audience := self.text "audience"
  accessMode := self.text "access_mode"
  providerOperation := self.text "provider_operation"
  deliveryChannelIdentity := self.text "delivery_channel_identity"
  deliveredAt := self.text "delivered_at"
  clockWitnessDigest := self.text "clock_witness_digest"
  secretMaterialExposed := self "secret_material_exposed"
  deliveryRevision := self.text "delivery_revision"
  deliveryDigest := self.text "delivery_digest"

def contract : Contract EphemeralRollbackCredentialDelivery where
  contractType := "ephemeral-rollback-credential-delivery/v1"
  typeField := "delivery_type"
  digestField := "delivery_digest"
  mismatch := "delivery_digest does not match rollback credential delivery"
  attributes :=
    ["runner_id", "runner_boundary_digest", "credential_decision_id",
      "credential_decision_digest", "provider_instance_id", "credential_provider",
      "credential_class", "audience", "access_mode", "provider_operation",
      "delivery_channel_identity", "delivered_at", "clock_witness_digest",
      "secret_material_exposed", "delivery_revision"].map
      fun field => (field, if field = "secret_material_exposed" then .any else .text)
  checks :=
    requireDigests ["runner_id", "runner_boundary_digest", "credential_decision_id",
      "credential_decision_digest", "clock_witness_digest", "delivery_digest"] ++
    requireTexts ["provider_instance_id", "credential_provider", "credential_class", "audience",
      "access_mode", "provider_operation", "delivery_channel_identity", "delivery_revision"] ++
    [.timestamp "delivered_at",
      .equals "credential_provider" githubProvider
        "rollback credential provider must be github",
      .equals "credential_class" githubDeleteRefCredentialClass
        "rollback credential class is invalid",
      .equals "audience" githubApiAudience "rollback credential audience is invalid",
      .equals "access_mode" writeBoundedAccessMode
        "rollback credential delivery must be WRITE_BOUNDED",
      .equals "provider_operation" deleteRefOperation
        "rollback credential delivery operation must be DELETE_REF",
      .equals "delivery_channel_identity" outOfBandRollbackCredentialChannel
        "rollback credential delivery channel is unsupported",
      .satisfies "secret_material_exposed"
        (requireTruth false "rollback evidence must not expose secret material")]
  ofAttributes := ofAttributes
  claims := claims
  digest := deliveryDigest
  withDigest delivery digest := { delivery with deliveryDigest := digest }
  check _ _ := .ok ()

theorem lawful : contract.Lawful where
  ofAttributes_eq self delivery digest same := by
    simp only [contract, claims, List.cons_append, List.nil_append, List.forall_mem_cons] at same
    simp [contract, ofAttributes, Attributes.text, Json.text?, same]

def create (sha256 : String → String) (boundary : RunnerBoundaryV3)
    (decision : CredentialAccessDecisionV3)
    (providerInstanceId deliveredAt clockWitnessDigest deliveryRevision : String) :
    Except Raised EphemeralRollbackCredentialDelivery := do
  raiseIf (decision.runnerBoundaryDigest ≠ boundary.boundaryDigest)
    (permissionDenied "ROLLBACK_DELIVERY_BOUNDARY_MISMATCH")
  let delivered ← requireTimestamp (.str deliveredAt) "delivered_at"
  let validFrom ← requireTimestamp (.str decision.validFrom) "decision.valid_from"
  let expiresAt ← requireTimestamp (.str decision.expiresAt) "decision.expires_at"
  raiseIf (¬(validFrom ≤ delivered ∧ delivered < expiresAt))
    (permissionDenied "ROLLBACK_CREDENTIAL_DELIVERY_OUTSIDE_LIFETIME")
  let _ ← requireText (.str providerInstanceId) "provider_instance_id"
  requireDigestFields [("clock_witness_digest", clockWitnessDigest)]
  let _ ← requireText (.str deliveryRevision) "delivery_revision"
  contract.create sha256
    { runnerId := boundary.runnerId
      runnerBoundaryDigest := boundary.boundaryDigest
      credentialDecisionId := decision.decisionId
      credentialDecisionDigest := decision.decisionDigest
      providerInstanceId
      credentialProvider := decision.provider
      credentialClass := decision.credentialClass
      audience := decision.audience
      accessMode := decision.accessMode
      providerOperation := decision.providerOperation
      deliveryChannelIdentity := outOfBandRollbackCredentialChannel
      deliveredAt
      clockWitnessDigest
      secretMaterialExposed := .bool false
      deliveryRevision
      deliveryDigest := "" }

end EphemeralRollbackCredentialDelivery

/-- `RollbackWriteRuntimeActivation`.  A runner may use its credential once. -/
structure RollbackWriteRuntimeActivation where
  (runnerId runnerBoundaryDigest credentialDecisionDigest credentialDeliveryDigest : String)
  (leaseId leaseDigest executionId : String)
  executionEpoch : Int
  (capabilityDefinitionIdentity rollbackRequirementDigest providerInstanceId : String)
  (accessMode providerOperation : String)
  (providerMutationAllowed maxProviderMutations : Json)
  (temporalModel activationRevision activationDigest : String)
deriving DecidableEq

namespace RollbackWriteRuntimeActivation

/-- `_claims`, apart from version and type. -/
def claims (activation : RollbackWriteRuntimeActivation) : List (String × Json) :=
  [("runner_id", .str activation.runnerId),
    ("runner_boundary_digest", .str activation.runnerBoundaryDigest),
    ("credential_decision_digest", .str activation.credentialDecisionDigest),
    ("credential_delivery_digest", .str activation.credentialDeliveryDigest),
    ("lease_id", .str activation.leaseId),
    ("lease_digest", .str activation.leaseDigest),
    ("execution_id", .str activation.executionId),
    ("execution_epoch", .int activation.executionEpoch),
    ("capability_definition_identity", .str activation.capabilityDefinitionIdentity),
    ("rollback_requirement_digest", .str activation.rollbackRequirementDigest),
    ("provider_instance_id", .str activation.providerInstanceId),
    ("access_mode", .str activation.accessMode),
    ("provider_operation", .str activation.providerOperation),
    ("provider_mutation_allowed", activation.providerMutationAllowed),
    ("max_provider_mutations", activation.maxProviderMutations),
    ("temporal_model", .str activation.temporalModel),
    ("activation_revision", .str activation.activationRevision)]

def ofAttributes (self : Attributes) : RollbackWriteRuntimeActivation where
  runnerId := self.text "runner_id"
  runnerBoundaryDigest := self.text "runner_boundary_digest"
  credentialDecisionDigest := self.text "credential_decision_digest"
  credentialDeliveryDigest := self.text "credential_delivery_digest"
  leaseId := self.text "lease_id"
  leaseDigest := self.text "lease_digest"
  executionId := self.text "execution_id"
  executionEpoch := self.int "execution_epoch"
  capabilityDefinitionIdentity := self.text "capability_definition_identity"
  rollbackRequirementDigest := self.text "rollback_requirement_digest"
  providerInstanceId := self.text "provider_instance_id"
  accessMode := self.text "access_mode"
  providerOperation := self.text "provider_operation"
  providerMutationAllowed := self "provider_mutation_allowed"
  maxProviderMutations := self "max_provider_mutations"
  temporalModel := self.text "temporal_model"
  activationRevision := self.text "activation_revision"
  activationDigest := self.text "activation_digest"

def contract : Contract RollbackWriteRuntimeActivation where
  schemaVersion := 2
  contractType := "write-runtime-activation/v2"
  typeField := "activation_type"
  digestField := "activation_digest"
  mismatch := "activation_digest does not match write-runtime-activation/v2"
  attributes :=
    ["runner_id", "runner_boundary_digest", "credential_decision_digest",
      "credential_delivery_digest", "lease_id", "lease_digest", "execution_id",
      "execution_epoch", "capability_definition_identity", "rollback_requirement_digest",
      "provider_instance_id", "access_mode", "provider_operation",
      "provider_mutation_allowed", "max_provider_mutations", "temporal_model",
      "activation_revision"].map
      fun field => (field, if field = "execution_epoch" then .integer else
        if field ∈ ["provider_mutation_allowed", "max_provider_mutations"] then .any else .text)
  checks :=
    requireDigests ["runner_id", "runner_boundary_digest", "credential_decision_digest",
      "credential_delivery_digest", "lease_id", "lease_digest", "capability_definition_identity",
      "rollback_requirement_digest", "activation_digest"] ++
    requireTexts ["execution_id", "provider_instance_id", "access_mode", "provider_operation",
      "temporal_model", "activation_revision"] ++
    [.integer "execution_epoch" 1 "execution_epoch must be >= 1",
      .equals "access_mode" writeBoundedAccessMode
        "rollback runtime activation must be WRITE_BOUNDED",
      .equals "provider_operation" deleteRefOperation
        "rollback runtime activation operation must be DELETE_REF",
      .satisfies "provider_mutation_allowed"
        (requireTruth true "rollback runtime allows exactly one mutation"),
      .satisfies "max_provider_mutations"
        (requireOne "rollback runtime allows exactly one mutation"),
      .equals "temporal_model" readThenDeleteNonAtomic
        "rollback runtime must disclose non-atomic temporal model"]
  ofAttributes := ofAttributes
  claims := claims
  digest := activationDigest
  withDigest activation digest := { activation with activationDigest := digest }
  check _ _ := .ok ()

theorem lawful : contract.Lawful where
  ofAttributes_eq self activation digest same := by
    simp only [contract, claims, List.cons_append, List.nil_append, List.forall_mem_cons] at same
    simp [contract, ofAttributes, Attributes.text, Attributes.int, Json.text?, same]

def create (sha256 : String → String) (boundary : RunnerBoundaryV3)
    (decision : CredentialAccessDecisionV3) (delivery : EphemeralRollbackCredentialDelivery)
    (activationRevision : String) : Except Raised RollbackWriteRuntimeActivation := do
  raiseIf (decision.runnerBoundaryDigest ≠ boundary.boundaryDigest)
    (permissionDenied "ROLLBACK_ACTIVATION_DECISION_BOUNDARY_MISMATCH")
  raiseIf (delivery.runnerBoundaryDigest ≠ boundary.boundaryDigest)
    (permissionDenied "ROLLBACK_ACTIVATION_DELIVERY_BOUNDARY_MISMATCH")
  raiseIf (delivery.credentialDecisionDigest ≠ decision.decisionDigest)
    (permissionDenied "ROLLBACK_ACTIVATION_DELIVERY_DECISION_MISMATCH")
  let _ ← requireText (.str activationRevision) "activation_revision"
  contract.createFrom sha256
    [("runner_id", .str boundary.runnerId),
      ("runner_boundary_digest", .str boundary.boundaryDigest),
      ("credential_decision_digest", .str decision.decisionDigest),
      ("credential_delivery_digest", .str delivery.deliveryDigest),
      ("lease_id", .str boundary.leaseId),
      ("lease_digest", .str boundary.leaseDigest),
      ("execution_id", .str boundary.executionId),
      ("execution_epoch", boundary.executionEpoch),
      ("capability_definition_identity", .str boundary.capabilityDefinitionIdentity),
      ("rollback_requirement_digest", .str boundary.rollbackRequirementDigest),
      ("provider_instance_id", .str delivery.providerInstanceId),
      ("access_mode", .str writeBoundedAccessMode),
      ("provider_operation", .str deleteRefOperation),
      ("provider_mutation_allowed", .bool true),
      ("max_provider_mutations", .int 1),
      ("temporal_model", .str readThenDeleteNonAtomic),
      ("activation_revision", .str activationRevision)]

end RollbackWriteRuntimeActivation

/-- `RollbackWriteEffectPreflight`.  What was checked before a deletion. -/
structure RollbackWriteEffectPreflight where
  (requestDigest targetDigest runnerBoundaryDigest credentialDecisionDigest : String)
  (runtimeActivationDigest conditionContractDigest observedRefSha : String)
  (predeleteObservationDigest providerOperation temporalModel : String)
  (providerMutationAllowed maxProviderMutations : Json)
  (checkedAt clockWitnessDigest preflightRevision preflightDigest : String)
deriving DecidableEq

namespace RollbackWriteEffectPreflight

/-- `_claims`, apart from version and type. -/
def claims (preflight : RollbackWriteEffectPreflight) : List (String × Json) :=
  [("request_digest", .str preflight.requestDigest),
    ("target_digest", .str preflight.targetDigest),
    ("runner_boundary_digest", .str preflight.runnerBoundaryDigest),
    ("credential_decision_digest", .str preflight.credentialDecisionDigest),
    ("runtime_activation_digest", .str preflight.runtimeActivationDigest),
    ("condition_contract_digest", .str preflight.conditionContractDigest),
    ("observed_ref_sha", .str preflight.observedRefSha),
    ("predelete_observation_digest", .str preflight.predeleteObservationDigest),
    ("provider_operation", .str preflight.providerOperation),
    ("temporal_model", .str preflight.temporalModel),
    ("provider_mutation_allowed", preflight.providerMutationAllowed),
    ("max_provider_mutations", preflight.maxProviderMutations),
    ("checked_at", .str preflight.checkedAt),
    ("clock_witness_digest", .str preflight.clockWitnessDigest),
    ("preflight_revision", .str preflight.preflightRevision)]

def ofAttributes (self : Attributes) : RollbackWriteEffectPreflight where
  requestDigest := self.text "request_digest"
  targetDigest := self.text "target_digest"
  runnerBoundaryDigest := self.text "runner_boundary_digest"
  credentialDecisionDigest := self.text "credential_decision_digest"
  runtimeActivationDigest := self.text "runtime_activation_digest"
  conditionContractDigest := self.text "condition_contract_digest"
  observedRefSha := self.text "observed_ref_sha"
  predeleteObservationDigest := self.text "predelete_observation_digest"
  providerOperation := self.text "provider_operation"
  temporalModel := self.text "temporal_model"
  providerMutationAllowed := self "provider_mutation_allowed"
  maxProviderMutations := self "max_provider_mutations"
  checkedAt := self.text "checked_at"
  clockWitnessDigest := self.text "clock_witness_digest"
  preflightRevision := self.text "preflight_revision"
  preflightDigest := self.text "preflight_digest"

def contract : Contract RollbackWriteEffectPreflight where
  schemaVersion := 2
  contractType := "write-effect-preflight/v2"
  typeField := "preflight_type"
  digestField := "preflight_digest"
  mismatch := "preflight_digest does not match write-effect-preflight/v2"
  attributes :=
    ["request_digest", "target_digest", "runner_boundary_digest",
      "credential_decision_digest", "runtime_activation_digest", "condition_contract_digest",
      "observed_ref_sha", "predelete_observation_digest", "provider_operation",
      "temporal_model", "provider_mutation_allowed", "max_provider_mutations", "checked_at",
      "clock_witness_digest", "preflight_revision"].map
      fun field => (field, if field ∈ ["provider_mutation_allowed", "max_provider_mutations"]
        then .any else .text)
  checks :=
    requireDigests ["request_digest", "target_digest", "runner_boundary_digest",
      "credential_decision_digest", "runtime_activation_digest", "condition_contract_digest",
      "predelete_observation_digest", "clock_witness_digest", "preflight_digest"] ++
    requireTexts ["observed_ref_sha"] ++
    [.satisfies "observed_ref_sha" (requireSha1Form "observed_ref_sha")] ++
    requireTexts ["provider_operation", "temporal_model", "preflight_revision"] ++
    [.timestamp "checked_at",
      .equals "provider_operation" deleteRefOperation
        "rollback preflight operation must be DELETE_REF",
      .equals "temporal_model" readThenDeleteNonAtomic
        "rollback preflight must disclose non-atomic temporal model",
      .satisfies "provider_mutation_allowed"
        (requireTruth true "rollback preflight allows exactly one mutation"),
      .satisfies "max_provider_mutations"
        (requireOne "rollback preflight allows exactly one mutation")]
  ofAttributes := ofAttributes
  claims := claims
  digest := preflightDigest
  withDigest preflight digest := { preflight with preflightDigest := digest }
  check _ _ := .ok ()

theorem lawful : contract.Lawful where
  ofAttributes_eq self preflight digest same := by
    simp only [contract, claims, List.cons_append, List.nil_append, List.forall_mem_cons] at same
    simp [contract, ofAttributes, Attributes.text, Json.text?, same]

def create (sha256 : String → String) (request : GitHubDeleteRefRequest) (target : ExecutionTarget)
    (boundary : RunnerBoundaryV3) (decision : CredentialAccessDecisionV3)
    (activation : RollbackWriteRuntimeActivation) (condition : GitHubDeleteRefConditionContract)
    (observedRefSha predeleteObservationDigest checkedAt clockWitnessDigest
      preflightRevision : String) : Except Raised RollbackWriteEffectPreflight := do
  raiseIf (request.targetDigest ≠ target.targetDigest)
    (permissionDenied "ROLLBACK_PREFLIGHT_TARGET_MISMATCH")
  raiseIf (request.runnerBoundaryDigest ≠ boundary.boundaryDigest)
    (permissionDenied "ROLLBACK_PREFLIGHT_BOUNDARY_MISMATCH")
  raiseIf (request.credentialDecisionDigest ≠ decision.decisionDigest)
    (permissionDenied "ROLLBACK_PREFLIGHT_DECISION_MISMATCH")
  raiseIf (activation.runnerBoundaryDigest ≠ boundary.boundaryDigest)
    (permissionDenied "ROLLBACK_PREFLIGHT_ACTIVATION_BOUNDARY_MISMATCH")
  raiseIf (activation.credentialDecisionDigest ≠ decision.decisionDigest)
    (permissionDenied "ROLLBACK_PREFLIGHT_ACTIVATION_DECISION_MISMATCH")
  raiseIf (request.conditionContractDigest ≠ condition.contractDigest)
    (permissionDenied "ROLLBACK_PREFLIGHT_CONDITION_MISMATCH")
  requireSha1 "observed_ref_sha" observedRefSha
  raiseIf (observedRefSha ≠ request.expectedSha ∨ observedRefSha ≠ condition.expectedSha)
    (permissionDenied "ROLLBACK_PREFLIGHT_STALE_OR_SUBSTITUTED_REF")
  requireDigestFields [("predelete_observation_digest", predeleteObservationDigest)]
  -- the time is only read, and never compared with the delivery or with the decision
  let _ ← requireText (.str checkedAt) "checked_at"
  requireDigestFields [("clock_witness_digest", clockWitnessDigest)]
  let _ ← requireText (.str preflightRevision) "preflight_revision"
  let _ ← requireTimestamp (.str checkedAt) "checked_at"
  contract.create sha256
    { requestDigest := request.requestDigest
      targetDigest := target.targetDigest
      runnerBoundaryDigest := boundary.boundaryDigest
      credentialDecisionDigest := decision.decisionDigest
      runtimeActivationDigest := activation.activationDigest
      conditionContractDigest := condition.contractDigest
      observedRefSha
      predeleteObservationDigest
      providerOperation := deleteRefOperation
      temporalModel := readThenDeleteNonAtomic
      providerMutationAllowed := .bool true
      maxProviderMutations := .int 1
      checkedAt
      clockWitnessDigest
      preflightRevision
      preflightDigest := "" }

end RollbackWriteEffectPreflight

open Calendar

def githubDeleteRefCapability : String := "github.delete-exact-created-ref/v1"

def githubDeleteRefBinderId : String := "github-delete-exact-created-ref-target-binder/v1"

def githubDeleteRefHandler : String := "github-delete-exact-created-ref-handler/v1"

/-- `GitHubDeleteRefConditionContract.create`, on the claims of a target. -/
def GitHubDeleteRefConditionContract.ofClaims (sha256 : String → String) (claims : Json)
    (contractRevision : String) : Except Raised GitHubDeleteRefConditionContract := do
  let claimed (field : String) := orRaise ⟨.keyError, "'" ++ field ++ "'"⟩ (claims.get? field)
  let repository ← claimed "repository"
  let ref ← claimed "ref"
  let expectedSha ← claimed "expected_sha"
  let response ← claimed "original_create_response_digest"
  let result ← claimed "original_verification_result_digest"
  -- each check reads its own claim first, as the call below does it on texts
  let repository ← requireText repository "repository"
  requireRepository repository
  let ref ← requireText ref "ref"
  requireCanaryRef ref
  let expectedSha ← requireText expectedSha "expected_sha"
  requireSha1 "expected_sha" expectedSha
  let response ← requireDigest response "original_create_response_digest"
  let result ← requireDigest result "original_verification_result_digest"
  create sha256 repository ref expectedSha response result contractRevision

def RollbackWriteRequirement.create (sha256 : String → String) (definition : CapabilityDefinition)
    (capsule : ExecutionCapsule) (evidence : HandlerConformanceEvidence)
    (condition : GitHubDeleteRefConditionContract) (requirementRevision : String) :
    Except Raised RollbackWriteRequirement := do
  raiseIf (definition.capability ≠ githubDeleteRefCapability)
    (permissionDenied "ROLLBACK_CAPABILITY_MISMATCH")
  raiseIf (definition.targetKind ≠ githubRefTargetKind ∨
      definition.binderId ≠ githubDeleteRefBinderId)
    (permissionDenied "ROLLBACK_TARGET_BINDING_MISMATCH")
  raiseIf (definition.handlerId ≠ githubDeleteRefHandler)
    (permissionDenied "ROLLBACK_HANDLER_MISMATCH")
  raiseIf (definition.effectClass ≠ mutationReversibleEffectClass)
    (permissionDenied "ROLLBACK_EFFECT_CLASS_MISMATCH")
  raiseIf (definition.verificationClass ≠ providerReadVerificationClass)
    (permissionDenied "ROLLBACK_VERIFICATION_CLASS_MISMATCH")
  raiseIf (definition.productionEligible = true ∨
      definition.supportedEnvironments ≠ [stagingEnvironment])
    (permissionDenied "ROLLBACK_ENVIRONMENT_NOT_STAGING_ONLY")
  raiseIf (capsule.capabilityDefinitionIdentity ≠ definition.definitionIdentity)
    (permissionDenied "ROLLBACK_CAPSULE_DEFINITION_MISMATCH")
  raiseIf (capsule.handlerId ≠ definition.handlerId ∨ capsule.targetKind ≠ definition.targetKind)
    (permissionDenied "ROLLBACK_CAPSULE_BINDING_MISMATCH")
  raiseIf (capsule.preconditionEnforcementClass ≠ readThenCompare)
    (permissionDenied "ROLLBACK_CAPSULE_MUST_READ_THEN_COMPARE")
  -- of the evidence, only its capsule digest and its enforcement are compared
  raiseIf (evidence.executionCapsuleDigest ≠ capsule.capsuleDigest)
    (permissionDenied "ROLLBACK_HANDLER_EVIDENCE_CAPSULE_MISMATCH")
  raiseIf (evidence.preconditionEnforcementClass ≠ readThenCompare)
    (permissionDenied "ROLLBACK_HANDLER_EVIDENCE_MUST_READ_THEN_COMPARE")
  raiseIf (evidence.atomicProviderConditionContractIdentity ≠ .null)
    (permissionDenied "ROLLBACK_MUST_NOT_CLAIM_ATOMIC_PROVIDER_CONDITION")
  let _ ← requireText (.str requirementRevision) "requirement_revision"
  contract.create sha256
    { capabilityDefinitionIdentity := definition.definitionIdentity
      executionCapsuleDigest := capsule.capsuleDigest
      handlerConformanceEvidenceDigest := evidence.evidenceDigest
      conditionContractDigest := condition.contractDigest
      verificationContractIdentity := capsule.verificationContractIdentity
      effectClass := mutationReversibleEffectClass
      preconditionEnforcementClass := readThenCompare
      temporalModel := readThenDeleteNonAtomic
      maxProviderMutations := .int maxProviderMutationsR1
      providerMutationAllowed := .bool true
      rollbackStrategy := recreateExactDeletedRefSeparateAuthority
      requirementRevision
      requirementDigest := "" }

def CredentialBrokerPolicyV3.create (sha256 : String → String) (definition : CapabilityDefinition)
    (requirement : RollbackWriteRequirement) (maxTtlSeconds : Nat) (policyRevision : String) :
    Except Raised CredentialBrokerPolicyV3 := do
  raiseIf (definition.definitionIdentity ≠ requirement.capabilityDefinitionIdentity)
    (permissionDenied "ROLLBACK_POLICY_DEFINITION_MISMATCH")
  let _ ← requireText (.str policyRevision) "policy_revision"
  if bounded : 1 ≤ maxTtlSeconds ∧ maxTtlSeconds ≤ maxWriteCredentialTtlSeconds then
    let draft : CredentialBrokerPolicyV3 :=
      { credentialClass := githubDeleteRefCredentialClass
        provider := githubProvider
        audience := githubApiAudience
        capabilityDefinitionIdentity := definition.definitionIdentity
        rollbackRequirementDigest := requirement.requirementDigest
        environment := stagingEnvironment
        accessMode := writeBoundedAccessMode
        providerOperation := deleteRefOperation
        providerMutationAllowed := .bool true
        maxProviderMutations := .int 1
        maxTtlSeconds
        policyRevision
        policyDigest := ""
        ttl_bounded := bounded }
    let policy := { draft with policyDigest := digestOf sha256 draft.claims }
    policy.postInit sha256
    return policy
  else .error (valueError "rollback credential policy TTL is invalid")

structure A09RollbackRuntimeProfile where
  (provider providerInstanceId rootfsDigest resourceLimitProfileDigest : String)
  (networkPolicyDigest identityRevision conditionRevision requirementRevision : String)
  (boundaryRevision credentialPolicyRevision credentialDecisionRevision : String)
  (credentialDeliveryRevision activationRevision requestRevision preflightRevision : String)
  maxCredentialTtlSeconds : Nat
deriving DecidableEq

structure A09PreparedRollback where
  prepared : CanonicalPreparedExecution
  condition : GitHubDeleteRefConditionContract
  identity : RunnerIdentity
  requirement : RollbackWriteRequirement
  boundary : RunnerBoundaryV3
  credentialPolicy : CredentialBrokerPolicyV3
  credentialDecision : CredentialAccessDecisionV3
  credentialDelivery : EphemeralRollbackCredentialDelivery
  activation : RollbackWriteRuntimeActivation
  request : GitHubDeleteRefRequest
  preflight : RollbackWriteEffectPreflight

structure A09RollbackPreparer where
  handlerRegistry : HandlerConformanceRegistry
  trustedClock : TrustedClockAuthority
  runtimeProfile : A09RollbackRuntimeProfile

/-- What the surroundings answer during one call: the current fence, and the clock twice. -/
structure RollbackSurroundings where
  currentFence : ExecutionLease → Except Raised Unit
  (deliveryReading checkReading : ClockReading)

/-- `datetime.fromisoformat`, on a time of a lease. -/
def leaseTime (text : String) : Except Raised Instant :=
  orRaise (valueError ("Invalid isoformat string: '" ++ text ++ "'")) (Instant.ofIsoformat? text)

/-- The runner that a profile describes, without its digests. -/
def A09RollbackRuntimeProfile.identityDraft (profile : A09RollbackRuntimeProfile)
    (environment : String) : RunnerIdentity where
  runnerId := ""
  runnerClass := writeRunnerClass
  provider := profile.provider
  providerInstanceId := profile.providerInstanceId
  environment := environment
  rootfsDigest := profile.rootfsDigest
  resourceLimitProfileDigest := profile.resourceLimitProfileDigest
  networkPolicyDigest := profile.networkPolicyDigest
  identityRevision := profile.identityRevision
  identityDigest := ""

def A09RollbackPreparer.prepare (sha256 : String → String) (preparer : A09RollbackPreparer)
    (surroundings : RollbackSurroundings) (prepared : CanonicalPreparedExecution)
    (observedRefSha predeleteObservationDigest : String) : Except Raised A09PreparedRollback := do
  let profile := preparer.runtimeProfile
  let capsules := preparer.handlerRegistry.capsules
  raiseIf (prepared.terminalProfile ≠ boundedMutationTerminalProfile)
    (permissionDenied "A09_ROLLBACK_TERMINAL_PROFILE_MISMATCH")
  raiseIf (prepared.capability ≠ githubDeleteRefCapability)
    (permissionDenied "A09_ROLLBACK_CAPABILITY_MISMATCH")
  requireDigestFields [("predelete_observation_digest", predeleteObservationDigest)]
  let definition ← capsules.capabilities.definitionByIdentity prepared.capabilityDefinitionIdentity
  raiseIf (definition.capability ≠ githubDeleteRefCapability)
    (permissionDenied "A09_ROLLBACK_DEFINITION_MISMATCH")
  let capsule ← capsules.capsuleForDefinition prepared.capabilityDefinitionIdentity
  raiseIf (capsule.capsuleDigest ≠ prepared.executionCapsuleDigest)
    (permissionDenied "A09_ROLLBACK_CAPSULE_MISMATCH")
  let evidence ← preparer.handlerRegistry.resolve capsule.capsuleDigest
  let target := prepared.snapshot.executionTarget
  raiseIf (target.targetDigest ≠ prepared.targetDigest)
    (permissionDenied "A09_ROLLBACK_TARGET_MISMATCH")
  let condition ← GitHubDeleteRefConditionContract.ofClaims sha256 target.targetClaims
    profile.conditionRevision
  let requirement ← RollbackWriteRequirement.create sha256 definition capsule evidence condition
    profile.requirementRevision
  let identity ← RunnerIdentity.create sha256 (profile.identityDraft prepared.environment)
  let boundary ← RunnerBoundaryV3.create sha256 identity prepared.lease capsule definition
    requirement condition profile.boundaryRevision
  let policy ← CredentialBrokerPolicyV3.create sha256 definition requirement
    profile.maxCredentialTtlSeconds profile.credentialPolicyRevision
  let validFrom ← leaseTime prepared.lease.acquiredAt
  let leaseExpires ← leaseTime prepared.lease.expiresAt
  let policyExpires ← orRaise ⟨.overflowError, "date value out of range"⟩
    (validFrom.later (profile.maxCredentialTtlSeconds * 1000))
  let decision ← CredentialAccessDecisionV3.create sha256 boundary policy validFrom.isoformat
    (min leaseExpires policyExpires).isoformat profile.credentialDecisionRevision
  let deliveryClock ← preparer.trustedClock.witness sha256 prepared.environment
    surroundings.deliveryReading
  let delivery ← EphemeralRollbackCredentialDelivery.create sha256 boundary decision
    profile.providerInstanceId deliveryClock.observedAt deliveryClock.witnessDigest
    profile.credentialDeliveryRevision
  let activation ← RollbackWriteRuntimeActivation.create sha256 boundary decision delivery
    profile.activationRevision
  let request ← GitHubDeleteRefRequest.create sha256 target boundary decision condition
    profile.requestRevision
  surroundings.currentFence prepared.lease
  let checked ← preparer.trustedClock.witness sha256 prepared.environment
    surroundings.checkReading
  let preflight ← RollbackWriteEffectPreflight.create sha256 request target boundary decision
    activation condition observedRefSha predeleteObservationDigest checked.observedAt
    checked.witnessDigest profile.preflightRevision
  return ⟨prepared, condition, identity, requirement, boundary, policy, decision, delivery,
    activation, request, preflight⟩

end VoodooOne
