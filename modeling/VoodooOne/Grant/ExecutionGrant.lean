import VoodooOne.Foundation.Clock
import VoodooOne.Foundation.Contract

/-!
# Execution grants

A grant allows one execution, once, for at most five minutes, under the revocation epoch in which
it was issued.
-/

namespace VoodooOne

open Calendar

structure ExecutionGrantV2 where
  (grantId jti executionId requestId authorizationSnapshotDigest : String)
  (snapshotAuthorityWitnessSetDigest snapshotAuthorityEventHash : String)
  (parentScopeDigest authorityConstraintDigest monotonicAuthorityDecisionDigest : String)
  (actorId workspaceId environment capability capabilityDefinitionIdentity : String)
  (targetKind targetDigest payloadDigest policyVersion policyIdentity : String)
  (approvalSetDigest requiredPermission : String)
  (preconditionRequirementDigest preconditionExpectationDigest : String)
  (preconditionObservationDigest preconditionWitnessDigest : String)
  (preconditionEnforcementClass preconditionCheckedAt : String)
  (executionBindingDigest executionCapsuleDigest runnerClass : String)
  (executionBindingAuthorityRevision issuedAt expiresAt : String)
  revocationEpoch : Int
  (useSemantics issuerIdentity issuerRevision grantDigest : String)
deriving DecidableEq, Repr

def requiredExecutionPermission : String := "execution.run"

/-- The enforcement classes `READ_THEN_COMPARE` and `ATOMIC_PROVIDER_CONDITION`. -/
def preconditionEnforcementClasses : List String :=
  ["READ_THEN_COMPARE", "ATOMIC_PROVIDER_CONDITION"]

def oneTimeUse : String := "ONE_TIME"

def maxGrantTtlSeconds : Nat := 300

def maxPreconditionToGrantSeconds : Nat := 30

namespace ExecutionGrantV2

/-- `_claims_without_digest`, apart from version and type. -/
def claims (grant : ExecutionGrantV2) : List (String × Json) :=
  [("grant_id", .str grant.grantId),
    ("jti", .str grant.jti),
    ("execution_id", .str grant.executionId),
    ("request_id", .str grant.requestId),
    ("authorization_snapshot_digest", .str grant.authorizationSnapshotDigest),
    ("snapshot_authority_witness_set_digest", .str grant.snapshotAuthorityWitnessSetDigest),
    ("snapshot_authority_event_hash", .str grant.snapshotAuthorityEventHash),
    ("parent_scope_digest", .str grant.parentScopeDigest),
    ("authority_constraint_digest", .str grant.authorityConstraintDigest),
    ("monotonic_authority_decision_digest", .str grant.monotonicAuthorityDecisionDigest),
    ("actor_id", .str grant.actorId),
    ("workspace_id", .str grant.workspaceId),
    ("environment", .str grant.environment),
    ("capability", .str grant.capability),
    ("capability_definition_identity", .str grant.capabilityDefinitionIdentity),
    ("target_kind", .str grant.targetKind),
    ("target_digest", .str grant.targetDigest),
    ("payload_digest", .str grant.payloadDigest),
    ("policy_version", .str grant.policyVersion),
    ("policy_identity", .str grant.policyIdentity),
    ("approval_set_digest", .str grant.approvalSetDigest),
    ("required_permission", .str grant.requiredPermission),
    ("precondition_requirement_digest", .str grant.preconditionRequirementDigest),
    ("precondition_expectation_digest", .str grant.preconditionExpectationDigest),
    ("precondition_observation_digest", .str grant.preconditionObservationDigest),
    ("precondition_witness_digest", .str grant.preconditionWitnessDigest),
    ("precondition_enforcement_class", .str grant.preconditionEnforcementClass),
    ("precondition_checked_at", .str grant.preconditionCheckedAt),
    ("execution_binding_digest", .str grant.executionBindingDigest),
    ("execution_capsule_digest", .str grant.executionCapsuleDigest),
    ("runner_class", .str grant.runnerClass),
    ("execution_binding_authority_revision", .str grant.executionBindingAuthorityRevision),
    ("issued_at", .str grant.issuedAt),
    ("expires_at", .str grant.expiresAt),
    ("revocation_epoch", .int grant.revocationEpoch),
    ("use_semantics", .str grant.useSemantics),
    ("issuer_identity", .str grant.issuerIdentity),
    ("issuer_revision", .str grant.issuerRevision)]

def ofAttributes (self : Attributes) : ExecutionGrantV2 where
  grantId := self.text "grant_id"
  jti := self.text "jti"
  executionId := self.text "execution_id"
  requestId := self.text "request_id"
  authorizationSnapshotDigest := self.text "authorization_snapshot_digest"
  snapshotAuthorityWitnessSetDigest := self.text "snapshot_authority_witness_set_digest"
  snapshotAuthorityEventHash := self.text "snapshot_authority_event_hash"
  parentScopeDigest := self.text "parent_scope_digest"
  authorityConstraintDigest := self.text "authority_constraint_digest"
  monotonicAuthorityDecisionDigest := self.text "monotonic_authority_decision_digest"
  actorId := self.text "actor_id"
  workspaceId := self.text "workspace_id"
  environment := self.text "environment"
  capability := self.text "capability"
  capabilityDefinitionIdentity := self.text "capability_definition_identity"
  targetKind := self.text "target_kind"
  targetDigest := self.text "target_digest"
  payloadDigest := self.text "payload_digest"
  policyVersion := self.text "policy_version"
  policyIdentity := self.text "policy_identity"
  approvalSetDigest := self.text "approval_set_digest"
  requiredPermission := self.text "required_permission"
  preconditionRequirementDigest := self.text "precondition_requirement_digest"
  preconditionExpectationDigest := self.text "precondition_expectation_digest"
  preconditionObservationDigest := self.text "precondition_observation_digest"
  preconditionWitnessDigest := self.text "precondition_witness_digest"
  preconditionEnforcementClass := self.text "precondition_enforcement_class"
  preconditionCheckedAt := self.text "precondition_checked_at"
  executionBindingDigest := self.text "execution_binding_digest"
  executionCapsuleDigest := self.text "execution_capsule_digest"
  runnerClass := self.text "runner_class"
  executionBindingAuthorityRevision := self.text "execution_binding_authority_revision"
  issuedAt := self.text "issued_at"
  expiresAt := self.text "expires_at"
  revocationEpoch := self.int "revocation_epoch"
  useSemantics := self.text "use_semantics"
  issuerIdentity := self.text "issuer_identity"
  issuerRevision := self.text "issuer_revision"
  grantDigest := self.text "grant_digest"

def contract : Contract ExecutionGrantV2 where
  schemaVersion := 2
  contractType := "execution-grant/v2"
  typeField := "grant_type"
  digestField := "grant_digest"
  mismatch := "grant_digest does not match execution grant v2 claims"
  attributes :=
    ["grant_id", "jti", "execution_id", "request_id", "authorization_snapshot_digest",
      "snapshot_authority_witness_set_digest", "snapshot_authority_event_hash",
      "parent_scope_digest", "authority_constraint_digest", "monotonic_authority_decision_digest",
      "actor_id", "workspace_id", "environment", "capability", "capability_definition_identity",
      "target_kind", "target_digest", "payload_digest", "policy_version", "policy_identity",
      "approval_set_digest", "required_permission", "precondition_requirement_digest",
      "precondition_expectation_digest", "precondition_observation_digest",
      "precondition_witness_digest", "precondition_enforcement_class", "precondition_checked_at",
      "execution_binding_digest", "execution_capsule_digest", "runner_class",
      "execution_binding_authority_revision", "issued_at", "expires_at", "revocation_epoch",
      "use_semantics", "issuer_identity", "issuer_revision"].map
      fun field => (field, if field = "revocation_epoch" then .integer else .text)
  checks :=
    requireTexts ["grant_id", "jti", "execution_id", "request_id", "actor_id", "workspace_id",
      "environment", "capability", "target_kind", "policy_version", "runner_class",
      "execution_binding_authority_revision", "issuer_identity", "issuer_revision"] ++
    requireDigests ["authorization_snapshot_digest", "snapshot_authority_witness_set_digest",
      "snapshot_authority_event_hash", "parent_scope_digest", "authority_constraint_digest",
      "monotonic_authority_decision_digest", "capability_definition_identity", "target_digest",
      "payload_digest", "policy_identity", "approval_set_digest",
      "precondition_requirement_digest", "precondition_expectation_digest",
      "precondition_observation_digest", "precondition_witness_digest",
      "execution_binding_digest", "execution_capsule_digest", "grant_digest"] ++
    [.equals "required_permission" requiredExecutionPermission
        "required_permission must be execution.run",
      .oneOf "precondition_enforcement_class" preconditionEnforcementClasses
        "precondition_enforcement_class is unsupported",
      .equals "use_semantics" oneTimeUse "use_semantics must be ONE_TIME",
      .integer "revocation_epoch" 0 "revocation_epoch must be non-negative",
      .timestamp "precondition_checked_at", .timestamp "issued_at", .timestamp "expires_at"]
  ofAttributes := ofAttributes
  claims := claims
  digest := grantDigest
  withDigest grant digest := { grant with grantDigest := digest }
  check _ grant := do
    let checked ← requireTimestamp (.str grant.preconditionCheckedAt) "precondition_checked_at"
    let issued ← requireTimestamp (.str grant.issuedAt) "issued_at"
    let expires ← requireTimestamp (.str grant.expiresAt) "expires_at"
    raiseIf (issued < checked) (valueError "grant issuance precedes precondition witness")
    raiseIf (expires ≤ issued) (valueError "grant TTL must be positive")
    raiseIf (expires.milliseconds - issued.milliseconds > maxGrantTtlSeconds * 1000)
      (valueError "grant TTL exceeds 300 seconds")
    raiseIf (issued.milliseconds - checked.milliseconds > maxPreconditionToGrantSeconds * 1000)
      (valueError "precondition witness is too old for grant issuance")

theorem lawful : contract.Lawful where
  ofAttributes_eq self grant digest same := by
    simp only [contract, claims, List.cons_append, List.nil_append, List.forall_mem_cons] at same
    simp [contract, ofAttributes, Attributes.text, Attributes.int, Json.text?, same]

def issue (sha256 : String → String) (draft : ExecutionGrantV2) : Except Raised ExecutionGrantV2 :=
  contract.create sha256 draft

def toDict (grant : ExecutionGrantV2) : Json := contract.toDict grant

def fromDict (sha256 : String → String) (value : Json) : Except Raised ExecutionGrantV2 :=
  contract.fromDict sha256 value

end ExecutionGrantV2

/-- `ExecutionConformanceWitness`, as the conformance authority returns it. -/
structure ExecutionConformanceWitness where
  (grantDigest executionBindingDigest executionCapsuleDigest : String)
  (capabilityDefinitionIdentity capabilityActivationDigest capsuleActivationDigest : String)
  (handlerConformanceEvidenceDigest targetKind runnerClass handlerId handlerDigest : String)
  (credentialClass preconditionEnforcementClass verificationContractIdentity : String)
  atomicProviderConditionContractIdentity : Option String
  (conformanceAuthorityRevision witnessDigest : String)
deriving DecidableEq, Repr

def ExecutionConformanceWitness.toDict (witness : ExecutionConformanceWitness) : Json :=
  .object [("schema_version", .int 1),
    ("witness_type", .str "execution-conformance-witness/v1"),
    ("grant_digest", .str witness.grantDigest),
    ("execution_binding_digest", .str witness.executionBindingDigest),
    ("execution_capsule_digest", .str witness.executionCapsuleDigest),
    ("capability_definition_identity", .str witness.capabilityDefinitionIdentity),
    ("capability_activation_digest", .str witness.capabilityActivationDigest),
    ("capsule_activation_digest", .str witness.capsuleActivationDigest),
    ("handler_conformance_evidence_digest", .str witness.handlerConformanceEvidenceDigest),
    ("target_kind", .str witness.targetKind),
    ("runner_class", .str witness.runnerClass),
    ("handler_id", .str witness.handlerId),
    ("handler_digest", .str witness.handlerDigest),
    ("credential_class", .str witness.credentialClass),
    ("precondition_enforcement_class", .str witness.preconditionEnforcementClass),
    ("verification_contract_identity", .str witness.verificationContractIdentity),
    ("atomic_provider_condition_contract_identity",
      witness.atomicProviderConditionContractIdentity.elim .null .str),
    ("conformance_authority_revision", .str witness.conformanceAuthorityRevision),
    ("witness_digest", .str witness.witnessDigest)]

structure GrantConsumptionWitness where
  (consumptionId jti grantId grantDigest executionId authorizationSnapshotDigest : String)
  (executionCapsuleDigest runnerClass conformanceWitnessDigest clockWitnessDigest : String)
  liveRevocationEpoch : Int
  (consumedAt serializationContract authorityRevision witnessDigest : String)
deriving DecidableEq, Repr

def sqliteSerializationContract : String := "sqlite-begin-immediate/v1"

namespace GrantConsumptionWitness

/-- `_claims_without_digest`, apart from version and type. -/
def claims (witness : GrantConsumptionWitness) : List (String × Json) :=
  [("consumption_id", .str witness.consumptionId),
    ("jti", .str witness.jti),
    ("grant_id", .str witness.grantId),
    ("grant_digest", .str witness.grantDigest),
    ("execution_id", .str witness.executionId),
    ("authorization_snapshot_digest", .str witness.authorizationSnapshotDigest),
    ("execution_capsule_digest", .str witness.executionCapsuleDigest),
    ("runner_class", .str witness.runnerClass),
    ("conformance_witness_digest", .str witness.conformanceWitnessDigest),
    ("clock_witness_digest", .str witness.clockWitnessDigest),
    ("live_revocation_epoch", .int witness.liveRevocationEpoch),
    ("consumed_at", .str witness.consumedAt),
    ("serialization_contract", .str witness.serializationContract),
    ("authority_revision", .str witness.authorityRevision)]

def ofAttributes (self : Attributes) : GrantConsumptionWitness where
  consumptionId := self.text "consumption_id"
  jti := self.text "jti"
  grantId := self.text "grant_id"
  grantDigest := self.text "grant_digest"
  executionId := self.text "execution_id"
  authorizationSnapshotDigest := self.text "authorization_snapshot_digest"
  executionCapsuleDigest := self.text "execution_capsule_digest"
  runnerClass := self.text "runner_class"
  conformanceWitnessDigest := self.text "conformance_witness_digest"
  clockWitnessDigest := self.text "clock_witness_digest"
  liveRevocationEpoch := self.int "live_revocation_epoch"
  consumedAt := self.text "consumed_at"
  serializationContract := self.text "serialization_contract"
  authorityRevision := self.text "authority_revision"
  witnessDigest := self.text "witness_digest"

def contract : Contract GrantConsumptionWitness where
  contractType := "grant-consumption-witness/v1"
  typeField := "witness_type"
  digestField := "witness_digest"
  mismatch := "witness_digest does not match grant consumption witness"
  attributes :=
    ["consumption_id", "jti", "grant_id", "grant_digest", "execution_id",
      "authorization_snapshot_digest", "execution_capsule_digest", "runner_class",
      "conformance_witness_digest", "clock_witness_digest", "live_revocation_epoch",
      "consumed_at", "serialization_contract", "authority_revision"].map
      fun field => (field, if field = "live_revocation_epoch" then .integer else .text)
  checks :=
    requireTexts ["consumption_id", "jti", "grant_id", "execution_id", "runner_class",
      "serialization_contract", "authority_revision"] ++
    requireDigests ["grant_digest", "authorization_snapshot_digest", "execution_capsule_digest",
      "conformance_witness_digest", "clock_witness_digest", "witness_digest"] ++
    [.integer "live_revocation_epoch" 0 "live_revocation_epoch must be non-negative",
      .timestamp "consumed_at",
      .equals "serialization_contract" sqliteSerializationContract
        "serialization_contract is unsupported"]
  ofAttributes := ofAttributes
  claims := claims
  digest := witnessDigest
  withDigest witness digest := { witness with witnessDigest := digest }
  check _ _ := .ok ()

theorem lawful : contract.Lawful where
  ofAttributes_eq self witness digest same := by
    simp only [contract, claims, List.cons_append, List.nil_append, List.forall_mem_cons] at same
    simp [contract, ofAttributes, Attributes.text, Attributes.int, Json.text?, same]

/-- The claims that `create` makes. -/
def draft (consumptionId : String) (grant : ExecutionGrantV2)
    (conformanceWitness : ExecutionConformanceWitness) (clockWitness : ClockWitness)
    (liveRevocationEpoch : Int) (authorityRevision : String) : GrantConsumptionWitness where
  consumptionId
  jti := grant.jti
  grantId := grant.grantId
  grantDigest := grant.grantDigest
  executionId := grant.executionId
  authorizationSnapshotDigest := grant.authorizationSnapshotDigest
  executionCapsuleDigest := grant.executionCapsuleDigest
  runnerClass := grant.runnerClass
  conformanceWitnessDigest := conformanceWitness.witnessDigest
  clockWitnessDigest := clockWitness.witnessDigest
  liveRevocationEpoch
  consumedAt := clockWitness.observedAt
  serializationContract := sqliteSerializationContract
  authorityRevision
  witnessDigest := ""

def create (sha256 : String → String) (consumptionId : String) (grant : ExecutionGrantV2)
    (conformanceWitness : ExecutionConformanceWitness) (clockWitness : ClockWitness)
    (liveRevocationEpoch : Int) (authorityRevision : String) :
    Except Raised GrantConsumptionWitness :=
  contract.create sha256 (draft consumptionId grant conformanceWitness clockWitness
    liveRevocationEpoch authorityRevision)

def toDict (witness : GrantConsumptionWitness) : Json := contract.toDict witness

def fromDict (sha256 : String → String) (value : Json) : Except Raised GrantConsumptionWitness :=
  contract.fromDict sha256 value

theorem create_eq_ok {sha256 : String → String} {consumptionId : String} {grant : ExecutionGrantV2}
    {conformanceWitness : ExecutionConformanceWitness} {clockWitness : ClockWitness}
    {liveRevocationEpoch : Int} {authorityRevision : String} {witness : GrantConsumptionWitness}
    (created : create sha256 consumptionId grant conformanceWitness clockWitness liveRevocationEpoch
      authorityRevision = .ok witness) :
    ∃ digest, witness = { draft consumptionId grant conformanceWitness clockWitness
      liveRevocationEpoch authorityRevision with witnessDigest := digest } :=
  ⟨_, Contract.eq_of_create lawful created⟩

end GrantConsumptionWitness

end VoodooOne
