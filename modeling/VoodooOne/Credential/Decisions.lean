import VoodooOne.Credential.Boundaries
import VoodooOne.Lease.ExecutionLease

/-!
# Credential access decisions

A decision allows one runner to get one credential for a bounded time.  The decision of the first
generation lasts as long as the lease, that of the second at most as long as its policy allows, and
that of the third for the interval that the caller asks for.
-/

namespace VoodooOne

open Calendar

/-- `CredentialBrokerDenied`, `WriteCredentialDenied` and the bare `PermissionError`. -/
def permissionDenied (reason : String) : Raised := ⟨.permissionError, reason⟩

structure CredentialAccessDecision where
  (decisionId runnerBoundaryDigest runnerId runnerIdentityDigest leaseId leaseDigest : String)
  executionId : String
  executionEpoch : Json
  (executionCapsuleDigest capabilityDefinitionIdentity : String)
  (credentialClass provider audience environment : String)
  (accessMode providerMutationAllowed : Json)
  (validFrom expiresAt policyDigest policyRevision decisionRevision decisionDigest : String)
deriving DecidableEq

/-- The identity of a decision of the first two generations. -/
def boundaryIdentity (sha256 : String → String) (identityType runnerBoundaryDigest leaseDigest
    policyDigest : String) : String :=
  digestOf sha256 (.object [("identity_type", .str identityType),
    ("runner_boundary_digest", .str runnerBoundaryDigest),
    ("lease_digest", .str leaseDigest),
    ("policy_digest", .str policyDigest)])

namespace CredentialAccessDecision

def logicalIdentity (sha256 : String → String) (decision : CredentialAccessDecision) : String :=
  boundaryIdentity sha256 "credential-access-decision-id/v1" decision.runnerBoundaryDigest
    decision.leaseDigest decision.policyDigest

/-- `_claims_without_digest`, apart from version and type. -/
def claims (decision : CredentialAccessDecision) : List (String × Json) :=
  [("decision_id", .str decision.decisionId),
    ("runner_boundary_digest", .str decision.runnerBoundaryDigest),
    ("runner_id", .str decision.runnerId),
    ("runner_identity_digest", .str decision.runnerIdentityDigest),
    ("lease_id", .str decision.leaseId),
    ("lease_digest", .str decision.leaseDigest),
    ("execution_id", .str decision.executionId),
    ("execution_epoch", decision.executionEpoch),
    ("execution_capsule_digest", .str decision.executionCapsuleDigest),
    ("capability_definition_identity", .str decision.capabilityDefinitionIdentity),
    ("credential_class", .str decision.credentialClass),
    ("provider", .str decision.provider),
    ("audience", .str decision.audience),
    ("environment", .str decision.environment),
    ("access_mode", decision.accessMode),
    ("provider_mutation_allowed", decision.providerMutationAllowed),
    ("valid_from", .str decision.validFrom),
    ("expires_at", .str decision.expiresAt),
    ("policy_digest", .str decision.policyDigest),
    ("policy_revision", .str decision.policyRevision),
    ("decision_revision", .str decision.decisionRevision)]

def ofAttributes (self : Attributes) : CredentialAccessDecision where
  decisionId := self.text "decision_id"
  runnerBoundaryDigest := self.text "runner_boundary_digest"
  runnerId := self.text "runner_id"
  runnerIdentityDigest := self.text "runner_identity_digest"
  leaseId := self.text "lease_id"
  leaseDigest := self.text "lease_digest"
  executionId := self.text "execution_id"
  executionEpoch := self "execution_epoch"
  executionCapsuleDigest := self.text "execution_capsule_digest"
  capabilityDefinitionIdentity := self.text "capability_definition_identity"
  credentialClass := self.text "credential_class"
  provider := self.text "provider"
  audience := self.text "audience"
  environment := self.text "environment"
  accessMode := self "access_mode"
  providerMutationAllowed := self "provider_mutation_allowed"
  validFrom := self.text "valid_from"
  expiresAt := self.text "expires_at"
  policyDigest := self.text "policy_digest"
  policyRevision := self.text "policy_revision"
  decisionRevision := self.text "decision_revision"
  decisionDigest := self.text "decision_digest"

def contract : Contract CredentialAccessDecision where
  contractType := "credential-access-decision/v1"
  typeField := "decision_type"
  digestField := "decision_digest"
  mismatch := "decision_digest does not match credential access decision"
  attributes :=
    ["decision_id", "runner_boundary_digest", "runner_id", "runner_identity_digest", "lease_id",
      "lease_digest", "execution_id", "execution_epoch", "execution_capsule_digest",
      "capability_definition_identity", "credential_class", "provider", "audience", "environment",
      "access_mode", "provider_mutation_allowed", "valid_from", "expires_at", "policy_digest",
      "policy_revision", "decision_revision"].map
      fun field => (field, if field ∈ ["execution_epoch", "access_mode",
        "provider_mutation_allowed"] then .any else .text)
  checks :=
    requireDigests ["decision_id", "runner_boundary_digest", "runner_id",
      "runner_identity_digest", "lease_id", "lease_digest", "execution_capsule_digest",
      "capability_definition_identity", "policy_digest", "decision_digest"] ++
    requireTexts ["execution_id", "credential_class", "provider", "audience", "policy_revision",
      "decision_revision"] ++
    [.oneOf "environment" validEnvironments "environment is invalid",
      .satisfies "execution_epoch" requireIntegerEpoch,
      .timestamp "valid_from", .timestamp "expires_at",
      uncheckedAttribute "access_mode", uncheckedAttribute "provider_mutation_allowed"]
  ofAttributes := ofAttributes
  claims := claims
  digest := decisionDigest
  withDigest decision digest := { decision with decisionDigest := digest }
  check sha256 decision := do
    let validFrom ← requireTimestamp (.str decision.validFrom) "valid_from"
    let expiresAt ← requireTimestamp (.str decision.expiresAt) "expires_at"
    raiseIf (expiresAt ≤ validFrom)
      (valueError "credential decision expiry must be after valid_from")
    raiseIf (decision.accessMode ≠ .str readOnlyAccessMode)
      (valueError "Phase-D credential decision must be READ_ONLY")
    raiseIf (decision.providerMutationAllowed ≠ .bool false)
      (valueError "Phase-D credential decision cannot allow provider mutation")
    raiseIf (decision.decisionId ≠ decision.logicalIdentity sha256)
      (valueError "decision_id does not match credential decision identity")

theorem lawful : contract.Lawful where
  ofAttributes_eq self decision digest same := by
    simp only [contract, claims, List.cons_append, List.nil_append, List.forall_mem_cons] at same
    simp [contract, ofAttributes, Attributes.text, Json.text?, same]

def create (sha256 : String → String) (boundary : RunnerBoundary) (lease : ExecutionLease)
    (policy : CredentialBrokerPolicy) (decisionRevision : String) :
    Except Raised CredentialAccessDecision := do
  let _ ← requireText (.str decisionRevision) "decision_revision"
  raiseIf (boundary.effectCeiling ≠ readOnlyEffectClass)
    (permissionDenied "RUNNER_BOUNDARY_NOT_READ_ONLY")
  raiseIf (boundary.providerMutationAllowed ≠ .bool false)
    (permissionDenied "RUNNER_BOUNDARY_MUTATION_ALLOWED")
  raiseIf (boundary.leaseId ≠ lease.leaseId ∨ boundary.leaseDigest ≠ lease.leaseDigest)
    (permissionDenied "CREDENTIAL_LEASE_BINDING_MISMATCH")
  raiseIf (boundary.executionId ≠ lease.executionId)
    (permissionDenied "CREDENTIAL_EXECUTION_BINDING_MISMATCH")
  raiseIf (boundary.executionEpoch ≠ lease.executionEpoch)
    (permissionDenied "CREDENTIAL_EPOCH_BINDING_MISMATCH")
  raiseIf (boundary.environment ≠ lease.environment)
    (permissionDenied "CREDENTIAL_ENVIRONMENT_BINDING_MISMATCH")
  raiseIf (boundary.credentialClass ≠ policy.credentialClass)
    (permissionDenied "CREDENTIAL_CLASS_NOT_ALLOWED")
  raiseIf (boundary.capabilityDefinitionIdentity ∉ policy.allowedCapabilityDefinitionIdentities)
    (permissionDenied "CREDENTIAL_CAPABILITY_NOT_ALLOWED")
  raiseIf (boundary.environment ∉ policy.enabledEnvironments)
    (permissionDenied "CREDENTIAL_ENVIRONMENT_NOT_ALLOWED")
  contract.create sha256
    { decisionId := boundaryIdentity sha256 "credential-access-decision-id/v1"
        boundary.boundaryDigest lease.leaseDigest policy.policyDigest
      runnerBoundaryDigest := boundary.boundaryDigest
      runnerId := boundary.runnerId
      runnerIdentityDigest := boundary.runnerIdentityDigest
      leaseId := lease.leaseId
      leaseDigest := lease.leaseDigest
      executionId := lease.executionId
      executionEpoch := .int lease.executionEpoch
      executionCapsuleDigest := boundary.executionCapsuleDigest
      capabilityDefinitionIdentity := boundary.capabilityDefinitionIdentity
      credentialClass := boundary.credentialClass
      provider := policy.provider
      audience := policy.audience
      environment := boundary.environment
      accessMode := .str readOnlyAccessMode
      providerMutationAllowed := .bool false
      validFrom := lease.acquiredAt
      expiresAt := lease.expiresAt
      policyDigest := policy.policyDigest
      policyRevision := policy.policyRevision
      decisionRevision
      decisionDigest := "" }

end CredentialAccessDecision

structure CredentialAccessDecisionV2 where
  (decisionId runnerBoundaryDigest runnerId runnerIdentityDigest leaseId leaseDigest : String)
  executionId : String
  executionEpoch : Json
  (executionCapsuleDigest capabilityDefinitionIdentity : String)
  (controlledWriteRequirementDigest atomicProviderConditionContractIdentity : String)
  (credentialClass provider audience environment accessMode providerOperation : String)
  (providerMutationAllowed maxProviderMutations : Json)
  (validFrom expiresAt policyDigest policyRevision decisionRevision decisionDigest : String)
deriving DecidableEq

namespace CredentialAccessDecisionV2

def logicalIdentity (sha256 : String → String) (decision : CredentialAccessDecisionV2) : String :=
  boundaryIdentity sha256 "credential-access-decision-id/v2" decision.runnerBoundaryDigest
    decision.leaseDigest decision.policyDigest

/-- `_claims_without_digest`, apart from version and type. -/
def claims (decision : CredentialAccessDecisionV2) : List (String × Json) :=
  [("decision_id", .str decision.decisionId),
    ("runner_boundary_digest", .str decision.runnerBoundaryDigest),
    ("runner_id", .str decision.runnerId),
    ("runner_identity_digest", .str decision.runnerIdentityDigest),
    ("lease_id", .str decision.leaseId),
    ("lease_digest", .str decision.leaseDigest),
    ("execution_id", .str decision.executionId),
    ("execution_epoch", decision.executionEpoch),
    ("execution_capsule_digest", .str decision.executionCapsuleDigest),
    ("capability_definition_identity", .str decision.capabilityDefinitionIdentity),
    ("controlled_write_requirement_digest", .str decision.controlledWriteRequirementDigest),
    ("atomic_provider_condition_contract_identity",
      .str decision.atomicProviderConditionContractIdentity),
    ("credential_class", .str decision.credentialClass),
    ("provider", .str decision.provider),
    ("audience", .str decision.audience),
    ("environment", .str decision.environment),
    ("access_mode", .str decision.accessMode),
    ("provider_operation", .str decision.providerOperation),
    ("provider_mutation_allowed", decision.providerMutationAllowed),
    ("max_provider_mutations", decision.maxProviderMutations),
    ("valid_from", .str decision.validFrom),
    ("expires_at", .str decision.expiresAt),
    ("policy_digest", .str decision.policyDigest),
    ("policy_revision", .str decision.policyRevision),
    ("decision_revision", .str decision.decisionRevision)]

def ofAttributes (self : Attributes) : CredentialAccessDecisionV2 where
  decisionId := self.text "decision_id"
  runnerBoundaryDigest := self.text "runner_boundary_digest"
  runnerId := self.text "runner_id"
  runnerIdentityDigest := self.text "runner_identity_digest"
  leaseId := self.text "lease_id"
  leaseDigest := self.text "lease_digest"
  executionId := self.text "execution_id"
  executionEpoch := self "execution_epoch"
  executionCapsuleDigest := self.text "execution_capsule_digest"
  capabilityDefinitionIdentity := self.text "capability_definition_identity"
  controlledWriteRequirementDigest := self.text "controlled_write_requirement_digest"
  atomicProviderConditionContractIdentity :=
    self.text "atomic_provider_condition_contract_identity"
  credentialClass := self.text "credential_class"
  provider := self.text "provider"
  audience := self.text "audience"
  environment := self.text "environment"
  accessMode := self.text "access_mode"
  providerOperation := self.text "provider_operation"
  providerMutationAllowed := self "provider_mutation_allowed"
  maxProviderMutations := self "max_provider_mutations"
  validFrom := self.text "valid_from"
  expiresAt := self.text "expires_at"
  policyDigest := self.text "policy_digest"
  policyRevision := self.text "policy_revision"
  decisionRevision := self.text "decision_revision"
  decisionDigest := self.text "decision_digest"

def contract : Contract CredentialAccessDecisionV2 where
  schemaVersion := 2
  contractType := "credential-access-decision/v2"
  typeField := "decision_type"
  digestField := "decision_digest"
  mismatch := "decision_digest does not match credential-access-decision/v2"
  attributes :=
    ["decision_id", "runner_boundary_digest", "runner_id", "runner_identity_digest", "lease_id",
      "lease_digest", "execution_id", "execution_epoch", "execution_capsule_digest",
      "capability_definition_identity", "controlled_write_requirement_digest",
      "atomic_provider_condition_contract_identity", "credential_class", "provider", "audience",
      "environment", "access_mode", "provider_operation", "provider_mutation_allowed",
      "max_provider_mutations", "valid_from", "expires_at", "policy_digest", "policy_revision",
      "decision_revision"].map
      fun field => (field, if field ∈ ["execution_epoch", "provider_mutation_allowed",
        "max_provider_mutations"] then .any else .text)
  checks :=
    requireDigests ["decision_id", "runner_boundary_digest", "runner_id",
      "runner_identity_digest", "lease_id", "lease_digest", "execution_capsule_digest",
      "capability_definition_identity", "controlled_write_requirement_digest",
      "atomic_provider_condition_contract_identity", "policy_digest", "decision_digest"] ++
    requireTexts ["execution_id", "credential_class", "provider", "audience", "environment",
      "access_mode", "provider_operation", "policy_revision", "decision_revision"] ++
    [.satisfies "execution_epoch" (requirePositiveEpoch "execution_epoch must be an integer >= 1"),
      .timestamp "valid_from", .timestamp "expires_at",
      uncheckedAttribute "provider_mutation_allowed", uncheckedAttribute "max_provider_mutations"]
  ofAttributes := ofAttributes
  claims := claims
  digest := decisionDigest
  withDigest decision digest := { decision with decisionDigest := digest }
  check sha256 decision := do
    let validFrom ← requireTimestamp (.str decision.validFrom) "valid_from"
    let expiresAt ← requireTimestamp (.str decision.expiresAt) "expires_at"
    raiseIf (expiresAt ≤ validFrom)
      (valueError "credential decision expiry must be after valid_from")
    raiseIf (decision.credentialClass ≠ githubCreateRefCredentialClass)
      (valueError "F2 decision credential class is invalid")
    raiseIf (decision.provider ≠ githubProvider ∨ decision.audience ≠ githubApiAudience)
      (valueError "F2 decision provider or audience is invalid")
    raiseIf (decision.environment ≠ stagingEnvironment)
      (valueError "F2 decision is staging-only")
    raiseIf (decision.accessMode ≠ writeBoundedAccessMode)
      (valueError "F2 decision access mode must be WRITE_BOUNDED")
    raiseIf (decision.providerOperation ≠ createRefOperation)
      (valueError "F2 decision operation must be CREATE_REF")
    raiseIf (decision.providerMutationAllowed ≠ .bool true)
      (valueError "F2 decision must explicitly permit the bounded mutation")
    raiseIf (decision.maxProviderMutations.equalsInt maxProviderMutationsR1 = false)
      (valueError "F2 decision allows exactly one provider mutation")
    raiseIf (decision.decisionId ≠ decision.logicalIdentity sha256)
      (valueError "decision_id does not match credential-access-decision/v2 identity")

theorem lawful : contract.Lawful where
  ofAttributes_eq self decision digest same := by
    simp only [contract, claims, List.cons_append, List.nil_append, List.forall_mem_cons] at same
    simp [contract, ofAttributes, Attributes.text, Json.text?, same]

/-- What `create` asks of the policy. -/
def PolicyBound (boundary : RunnerBoundaryV2) (policy : CredentialBrokerPolicyV2) : Prop :=
  [policy.credentialClass, policy.capabilityDefinitionIdentity,
      policy.controlledWriteRequirementDigest, policy.atomicProviderConditionContractIdentity,
      policy.environment, policy.accessMode, policy.providerOperation] =
    [boundary.credentialClass, boundary.capabilityDefinitionIdentity,
      boundary.controlledWriteRequirementDigest, boundary.atomicProviderConditionContractIdentity,
      boundary.environment, writeBoundedAccessMode, createRefOperation] ∧
  -- `True` equals one
  policy.providerMutationAllowed.equalsInt 1 = true ∧
  policy.maxProviderMutations.equalsInt maxProviderMutationsR1 = true

instance (boundary : RunnerBoundaryV2) (policy : CredentialBrokerPolicyV2) :
    Decidable (PolicyBound boundary policy) :=
  inferInstanceAs (Decidable (_ ∧ _ ∧ _))

def create (sha256 : String → String) (boundary : RunnerBoundaryV2) (lease : ExecutionLease)
    (policy : CredentialBrokerPolicyV2) (decisionRevision : String) :
    Except Raised CredentialAccessDecisionV2 := do
  let _ ← requireText (.str decisionRevision) "decision_revision"
  raiseIf (boundary.leaseId ≠ lease.leaseId ∨ boundary.leaseDigest ≠ lease.leaseDigest)
    (permissionDenied "F2_CREDENTIAL_LEASE_BINDING_MISMATCH")
  raiseIf (boundary.executionId ≠ lease.executionId ∨
      boundary.executionEpoch.equalsInt lease.executionEpoch = false)
    (permissionDenied "F2_CREDENTIAL_EXECUTION_BINDING_MISMATCH")
  raiseIf (boundary.executionCapsuleDigest ≠ lease.executionCapsuleDigest)
    (permissionDenied "F2_CREDENTIAL_CAPSULE_BINDING_MISMATCH")
  raiseIf (¬PolicyBound boundary policy)
    (permissionDenied "F2_CREDENTIAL_POLICY_BINDING_MISMATCH")
  let validFrom ← requireTimestamp (.str lease.acquiredAt) "lease.acquired_at"
  let leaseExpires ← requireTimestamp (.str lease.expiresAt) "lease.expires_at"
  let policyExpires ← orRaise ⟨.overflowError, "date value out of range"⟩
    (validFrom.later (policy.maxTtlSeconds * 1000))
  let expires := min leaseExpires policyExpires
  raiseIf (expires ≤ validFrom) (permissionDenied "F2_CREDENTIAL_LIFETIME_INVALID")
  contract.create sha256
    { decisionId := boundaryIdentity sha256 "credential-access-decision-id/v2"
        boundary.boundaryDigest lease.leaseDigest policy.policyDigest
      runnerBoundaryDigest := boundary.boundaryDigest
      runnerId := boundary.runnerId
      runnerIdentityDigest := boundary.runnerIdentityDigest
      leaseId := lease.leaseId
      leaseDigest := lease.leaseDigest
      executionId := lease.executionId
      executionEpoch := .int lease.executionEpoch
      executionCapsuleDigest := boundary.executionCapsuleDigest
      capabilityDefinitionIdentity := boundary.capabilityDefinitionIdentity
      controlledWriteRequirementDigest := boundary.controlledWriteRequirementDigest
      atomicProviderConditionContractIdentity := boundary.atomicProviderConditionContractIdentity
      credentialClass := boundary.credentialClass
      provider := policy.provider
      audience := policy.audience
      environment := boundary.environment
      accessMode := writeBoundedAccessMode
      providerOperation := createRefOperation
      providerMutationAllowed := .bool true
      maxProviderMutations := .int maxProviderMutationsR1
      validFrom := lease.acquiredAt
      expiresAt := expires.isoformat
      policyDigest := policy.policyDigest
      policyRevision := policy.policyRevision
      decisionRevision
      decisionDigest := "" }

end CredentialAccessDecisionV2

structure CredentialAccessDecisionV3 where
  (decisionId runnerBoundaryDigest runnerId runnerIdentityDigest leaseId leaseDigest : String)
  executionId : String
  executionEpoch : Json
  (executionCapsuleDigest capabilityDefinitionIdentity rollbackRequirementDigest : String)
  (credentialClass provider audience environment accessMode providerOperation : String)
  (providerMutationAllowed maxProviderMutations : Json)
  (validFrom expiresAt policyDigest policyRevision decisionRevision decisionDigest : String)
deriving DecidableEq

namespace CredentialAccessDecisionV3

/-- The identity that `create` gives a decision. -/
def identity (sha256 : String → String) (runnerBoundaryDigest policyDigest validFrom
    expiresAt : String) : String :=
  digestOf sha256 (.object [("decision_type", .str "credential-access-decision-id/v3"),
    ("runner_boundary_digest", .str runnerBoundaryDigest),
    ("policy_digest", .str policyDigest),
    ("valid_from", .str validFrom),
    ("expires_at", .str expiresAt)])

/-- `_claims`, apart from version and type. -/
def claims (decision : CredentialAccessDecisionV3) : List (String × Json) :=
  [("decision_id", .str decision.decisionId),
    ("runner_boundary_digest", .str decision.runnerBoundaryDigest),
    ("runner_id", .str decision.runnerId),
    ("runner_identity_digest", .str decision.runnerIdentityDigest),
    ("lease_id", .str decision.leaseId),
    ("lease_digest", .str decision.leaseDigest),
    ("execution_id", .str decision.executionId),
    ("execution_epoch", decision.executionEpoch),
    ("execution_capsule_digest", .str decision.executionCapsuleDigest),
    ("capability_definition_identity", .str decision.capabilityDefinitionIdentity),
    ("rollback_requirement_digest", .str decision.rollbackRequirementDigest),
    ("credential_class", .str decision.credentialClass),
    ("provider", .str decision.provider),
    ("audience", .str decision.audience),
    ("environment", .str decision.environment),
    ("access_mode", .str decision.accessMode),
    ("provider_operation", .str decision.providerOperation),
    ("provider_mutation_allowed", decision.providerMutationAllowed),
    ("max_provider_mutations", decision.maxProviderMutations),
    ("valid_from", .str decision.validFrom),
    ("expires_at", .str decision.expiresAt),
    ("policy_digest", .str decision.policyDigest),
    ("policy_revision", .str decision.policyRevision),
    ("decision_revision", .str decision.decisionRevision)]

def ofAttributes (self : Attributes) : CredentialAccessDecisionV3 where
  decisionId := self.text "decision_id"
  runnerBoundaryDigest := self.text "runner_boundary_digest"
  runnerId := self.text "runner_id"
  runnerIdentityDigest := self.text "runner_identity_digest"
  leaseId := self.text "lease_id"
  leaseDigest := self.text "lease_digest"
  executionId := self.text "execution_id"
  executionEpoch := self "execution_epoch"
  executionCapsuleDigest := self.text "execution_capsule_digest"
  capabilityDefinitionIdentity := self.text "capability_definition_identity"
  rollbackRequirementDigest := self.text "rollback_requirement_digest"
  credentialClass := self.text "credential_class"
  provider := self.text "provider"
  audience := self.text "audience"
  environment := self.text "environment"
  accessMode := self.text "access_mode"
  providerOperation := self.text "provider_operation"
  providerMutationAllowed := self "provider_mutation_allowed"
  maxProviderMutations := self "max_provider_mutations"
  validFrom := self.text "valid_from"
  expiresAt := self.text "expires_at"
  policyDigest := self.text "policy_digest"
  policyRevision := self.text "policy_revision"
  decisionRevision := self.text "decision_revision"
  decisionDigest := self.text "decision_digest"

/-- The contract of decisions of the third generation.  The source has no `from_dict` for them. -/
def contract : Contract CredentialAccessDecisionV3 where
  schemaVersion := 3
  contractType := "credential-access-decision/v3"
  typeField := "decision_type"
  digestField := "decision_digest"
  mismatch := "decision_digest does not match credential-access-decision/v3"
  attributes :=
    ["decision_id", "runner_boundary_digest", "runner_id", "runner_identity_digest", "lease_id",
      "lease_digest", "execution_id", "execution_epoch", "execution_capsule_digest",
      "capability_definition_identity", "rollback_requirement_digest", "credential_class",
      "provider", "audience", "environment", "access_mode", "provider_operation",
      "provider_mutation_allowed", "max_provider_mutations", "valid_from", "expires_at",
      "policy_digest", "policy_revision", "decision_revision"].map
      fun field => (field, if field ∈ ["execution_epoch", "provider_mutation_allowed",
        "max_provider_mutations"] then .any else .text)
  checks :=
    requireDigests ["decision_id", "runner_boundary_digest", "runner_id",
      "runner_identity_digest", "lease_id", "lease_digest", "execution_capsule_digest",
      "capability_definition_identity", "rollback_requirement_digest", "policy_digest",
      "decision_digest"] ++
    requireTexts ["execution_id", "credential_class", "provider", "audience", "environment",
      "access_mode", "provider_operation", "policy_revision", "decision_revision"] ++
    [.satisfies "execution_epoch" (requirePositiveEpoch "execution_epoch must be >= 1"),
      .timestamp "valid_from", .timestamp "expires_at",
      uncheckedAttribute "provider_mutation_allowed", uncheckedAttribute "max_provider_mutations"]
  ofAttributes := ofAttributes
  claims := claims
  digest := decisionDigest
  withDigest decision digest := { decision with decisionDigest := digest }
  -- unlike the earlier generations, the decision id is not compared with anything
  check _ decision := do
    let start ← requireTimestamp (.str decision.validFrom) "valid_from"
    let stop ← requireTimestamp (.str decision.expiresAt) "expires_at"
    raiseIf (stop ≤ start) (valueError "rollback credential decision expiry is invalid")
    raiseIf (decision.credentialClass ≠ githubDeleteRefCredentialClass ∨
        decision.provider ≠ githubProvider ∨ decision.audience ≠ githubApiAudience)
      (valueError "rollback credential decision provider/class/audience is invalid")
    raiseIf (decision.environment ≠ stagingEnvironment ∨
        decision.accessMode ≠ writeBoundedAccessMode ∨
        decision.providerOperation ≠ deleteRefOperation)
      (valueError "rollback credential decision scope is invalid")
    raiseIf (decision.providerMutationAllowed ≠ .bool true ∨
        decision.maxProviderMutations.equalsInt 1 = false)
      (valueError "rollback credential decision allows exactly one mutation")

theorem lawful : contract.Lawful where
  ofAttributes_eq self decision digest same := by
    simp only [contract, claims, List.cons_append, List.nil_append, List.forall_mem_cons] at same
    simp [contract, ofAttributes, Attributes.text, Json.text?, same]

/-- `create`: the interval is the caller's. -/
def create (sha256 : String → String) (boundary : RunnerBoundaryV3)
    (policy : CredentialBrokerPolicyV3) (validFrom expiresAt decisionRevision : String) :
    Except Raised CredentialAccessDecisionV3 := do
  let start ← requireTimestamp (.str validFrom) "valid_from"
  let stop ← requireTimestamp (.str expiresAt) "expires_at"
  raiseIf (stop ≤ start ∨ stop.milliseconds - start.milliseconds > policy.maxTtlSeconds * 1000)
    (permissionDenied "ROLLBACK_CREDENTIAL_TTL_EXCEEDS_POLICY")
  raiseIf (boundary.capabilityDefinitionIdentity ≠ policy.capabilityDefinitionIdentity ∨
      boundary.rollbackRequirementDigest ≠ policy.rollbackRequirementDigest)
    (permissionDenied "ROLLBACK_CREDENTIAL_POLICY_BINDING_MISMATCH")
  raiseIf (boundary.credentialClass ≠ policy.credentialClass)
    (permissionDenied "ROLLBACK_CREDENTIAL_CLASS_MISMATCH")
  let _ ← requireText (.str decisionRevision) "decision_revision"
  contract.create sha256
    { decisionId := identity sha256 boundary.boundaryDigest policy.policyDigest validFrom expiresAt
      runnerBoundaryDigest := boundary.boundaryDigest
      runnerId := boundary.runnerId
      runnerIdentityDigest := boundary.runnerIdentityDigest
      leaseId := boundary.leaseId
      leaseDigest := boundary.leaseDigest
      executionId := boundary.executionId
      executionEpoch := boundary.executionEpoch
      executionCapsuleDigest := boundary.executionCapsuleDigest
      capabilityDefinitionIdentity := boundary.capabilityDefinitionIdentity
      rollbackRequirementDigest := boundary.rollbackRequirementDigest
      credentialClass := policy.credentialClass
      provider := policy.provider
      audience := policy.audience
      environment := policy.environment
      accessMode := policy.accessMode
      providerOperation := policy.providerOperation
      providerMutationAllowed := .bool true
      maxProviderMutations := .int 1
      validFrom
      expiresAt
      policyDigest := policy.policyDigest
      policyRevision := policy.policyRevision
      decisionRevision
      decisionDigest := "" }

end CredentialAccessDecisionV3

end VoodooOne
