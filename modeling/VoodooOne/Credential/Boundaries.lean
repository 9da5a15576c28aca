import VoodooOne.Foundation.DigestText

/-!
# Runner boundaries and credential policies

A runner boundary ties a runner to one lease and limits what it may do; a policy says which
boundaries may get a credential.  There are three generations: reading, creating a reference, and
rolling that back.
-/

namespace VoodooOne

def stagingEnvironment : String := "staging"

def writeRunnerClass : String := "github-actions.docker-isolated-write/v1"

def readOnlyEffectClass : String := "READ_ONLY"

def readOnlyAccessMode : String := "READ_ONLY"

def writeBoundedAccessMode : String := "WRITE_BOUNDED"

def githubCreateRefCredentialClass : String := "github.create-ref/scoped-v1"

def githubDeleteRefCredentialClass : String := "github.delete-ref/scoped-v1"

def githubProvider : String := "github"

def githubApiAudience : String := "api.github.com"

def createRefOperation : String := "CREATE_REF"

def deleteRefOperation : String := "DELETE_REF"

def maxProviderMutationsR1 : Int := 1

def mutationReversibleEffectClass : String := "mutation.reversible"

def denyAllNetworkDefault : String := "DENY_ALL"

def readThenDeleteNonAtomic : String := "READ_THEN_DELETE_NON_ATOMIC"

def maxWriteCredentialTtlSeconds : Nat := 300

/-- The comparison `value < 1`, which a value that is no number does not support. -/
def Json.belowOne : Json → Except Raised Bool
  | .int value => .ok (value < 1)
  | .bool value => .ok !value
  -- the decimal text of a float shows whether it is below one
  | .float repr => .ok (repr.toList.take 1 == ['-'] || repr.toList.take 2 == ['0', '.'] ||
      (repr.toList.dropWhile (· ≠ 'e')).take 2 == ['e', '-'])
  | .str _ => .error ⟨.typeError, "'<' not supported between instances of 'str' and 'int'"⟩
  | .null => .error ⟨.typeError, "'<' not supported between instances of 'NoneType' and 'int'"⟩
  | .arr _ => .error ⟨.typeError, "'<' not supported between instances of 'list' and 'int'"⟩
  | .obj _ => .error ⟨.typeError, "'<' not supported between instances of 'dict' and 'int'"⟩

/-- Whether the value is a truth value. -/
def Json.isBool : Json → Bool
  | .bool _ => true
  | _ => false

/-- The epoch check of the first generation. -/
def requireIntegerEpoch : Json → Except Raised Unit
  | .int value => raiseIf (value < 1) (valueError "execution_epoch must be >= 1")
  | _ => .error (valueError "execution_epoch must be an integer")

/-- The epoch check of the later generations. -/
def requirePositiveEpoch (message : String) (value : Json) : Except Raised Unit := do
  let below ← value.belowOne
  raiseIf (below ∨ value.isBool) (valueError message)

structure RunnerBoundary where
  (runnerId runnerIdentityDigest leaseId leaseDigest admissionId executionId : String)
  executionEpoch : Int
  (executionCapsuleDigest capabilityDefinitionIdentity : String)
  (environment runnerClass credentialClass effectCeiling networkEgressDefault : String)
  providerMutationAllowed : Json
  (boundaryRevision boundaryDigest : String)
deriving DecidableEq

/-- `RunnerBoundaryV2`.  Numbers and truth values keep the type that they came with. -/
structure RunnerBoundaryV2 where
  (runnerId runnerIdentityDigest leaseId leaseDigest admissionId executionId : String)
  executionEpoch : Json
  (executionCapsuleDigest capabilityDefinitionIdentity : String)
  (controlledWriteRequirementDigest atomicProviderConditionContractIdentity : String)
  (verificationContractIdentity environment runnerClass credentialClass : String)
  (effectCeiling networkEgressDefault : String)
  (providerMutationAllowed maxProviderMutations : Json)
  (rollbackStrategy boundaryRevision boundaryDigest : String)
deriving DecidableEq

structure RunnerBoundaryV3 where
  (runnerId runnerIdentityDigest leaseId leaseDigest admissionId executionId : String)
  executionEpoch : Json
  (executionCapsuleDigest capabilityDefinitionIdentity : String)
  (rollbackRequirementDigest conditionContractDigest : String)
  (verificationContractIdentity environment runnerClass credentialClass : String)
  (effectCeiling networkEgressDefault : String)
  (providerMutationAllowed maxProviderMutations : Json)
  (temporalModel boundaryRevision boundaryDigest : String)
deriving DecidableEq

namespace RunnerBoundaryV3

def claims (boundary : RunnerBoundaryV3) : Json :=
  .object [("schema_version", .int 3), ("boundary_type", .str "runner-boundary/v3"),
    ("runner_id", .str boundary.runnerId),
    ("runner_identity_digest", .str boundary.runnerIdentityDigest),
    ("lease_id", .str boundary.leaseId),
    ("lease_digest", .str boundary.leaseDigest),
    ("admission_id", .str boundary.admissionId),
    ("execution_id", .str boundary.executionId),
    ("execution_epoch", boundary.executionEpoch),
    ("execution_capsule_digest", .str boundary.executionCapsuleDigest),
    ("capability_definition_identity", .str boundary.capabilityDefinitionIdentity),
    ("rollback_requirement_digest", .str boundary.rollbackRequirementDigest),
    ("condition_contract_digest", .str boundary.conditionContractDigest),
    ("verification_contract_identity", .str boundary.verificationContractIdentity),
    ("environment", .str boundary.environment),
    ("runner_class", .str boundary.runnerClass),
    ("credential_class", .str boundary.credentialClass),
    ("effect_ceiling", .str boundary.effectCeiling),
    ("network_egress_default", .str boundary.networkEgressDefault),
    ("provider_mutation_allowed", boundary.providerMutationAllowed),
    ("max_provider_mutations", boundary.maxProviderMutations),
    ("temporal_model", .str boundary.temporalModel),
    ("boundary_revision", .str boundary.boundaryRevision)]

def postInit (sha256 : String → String) (boundary : RunnerBoundaryV3) : Except Raised Unit := do
  requireDigestFields
    [("runner_id", boundary.runnerId), ("runner_identity_digest", boundary.runnerIdentityDigest),
      ("lease_id", boundary.leaseId), ("lease_digest", boundary.leaseDigest),
      ("admission_id", boundary.admissionId),
      ("execution_capsule_digest", boundary.executionCapsuleDigest),
      ("capability_definition_identity", boundary.capabilityDefinitionIdentity),
      ("rollback_requirement_digest", boundary.rollbackRequirementDigest),
      ("condition_contract_digest", boundary.conditionContractDigest),
      ("verification_contract_identity", boundary.verificationContractIdentity),
      ("boundary_digest", boundary.boundaryDigest)]
  requireTextFields
    [("execution_id", boundary.executionId), ("environment", boundary.environment),
      ("runner_class", boundary.runnerClass), ("credential_class", boundary.credentialClass),
      ("effect_ceiling", boundary.effectCeiling),
      ("network_egress_default", boundary.networkEgressDefault),
      ("temporal_model", boundary.temporalModel), ("boundary_revision", boundary.boundaryRevision)]
  requirePositiveEpoch "execution_epoch must be >= 1" boundary.executionEpoch
  raiseIf (boundary.environment ≠ stagingEnvironment ∨ boundary.runnerClass ≠ writeRunnerClass)
    (valueError "rollback runner boundary is staging write-runtime only")
  raiseIf (boundary.credentialClass ≠ githubDeleteRefCredentialClass)
    (valueError "rollback credential class is invalid")
  raiseIf (boundary.effectCeiling ≠ mutationReversibleEffectClass)
    (valueError "rollback effect ceiling is invalid")
  raiseIf (boundary.networkEgressDefault ≠ denyAllNetworkDefault)
    (valueError "rollback network default must be DENY_ALL")
  raiseIf (boundary.providerMutationAllowed ≠ .bool true ∨
      boundary.maxProviderMutations.equalsInt 1 = false)
    (valueError "rollback boundary allows exactly one mutation")
  raiseIf (boundary.temporalModel ≠ readThenDeleteNonAtomic)
    (valueError "rollback boundary must disclose non-atomic temporal model")
  raiseIf (boundary.boundaryDigest ≠ digestOf sha256 boundary.claims)
    (valueError "boundary_digest does not match runner-boundary/v3")

/-- Two boundaries are for one runner, under one lease of one execution. -/
structure SameRun (left right : RunnerBoundaryV3) : Prop where
  runnerId : left.runnerId = right.runnerId
  lease : left.leaseId = right.leaseId ∧ left.leaseDigest = right.leaseDigest
  executionId : left.executionId = right.executionId
  executionEpoch : left.executionEpoch = right.executionEpoch

/-- Boundaries of one digest are for the same run, or their texts are a collision. -/
theorem same_or_collision {sha256 : String → String} {left right : RunnerBoundaryV3}
    (leftChecked : left.postInit sha256 = .ok ()) (rightChecked : right.postInit sha256 = .ok ())
    {leftEpoch rightEpoch : Int} (leftInteger : left.executionEpoch = .int leftEpoch)
    (rightInteger : right.executionEpoch = .int rightEpoch)
    (digests : left.boundaryDigest = right.boundaryDigest) :
    left.SameRun right ∨ Collision sha256 (canonicalJson left.claims)
      (canonicalJson right.claims) := by
  simp only [postInit, bind_eq_ok, raiseIf_eq_ok, not_or, not_not, Bool.not_eq_false]
    at leftChecked rightChecked
  obtain ⟨_, _, _, _, _, _, _, _, _, _, _, _, _, _, _, ⟨leftMutation, leftCount⟩, _, _,
    leftDigest⟩ :=
    leftChecked
  obtain ⟨_, _, _, _, _, _, _, _, _, _, _, _, _, _, _, ⟨rightMutation, rightCount⟩, _, _,
    rightDigest⟩ := rightChecked
  by_cases texts : canonicalJson left.claims = canonicalJson right.claims
  · left
    rw [claims, claims] at texts
    have same := fieldTexts_of_canonicalJson texts rfl (by simp)
      (by simp only [List.forall_mem_cons, delimited_str, delimited_int, leftInteger, leftMutation,
            delimited_bool, delimited_of_equalsInt leftCount, true_and]
          exact List.forall_mem_nil _)
      (by simp only [List.forall_mem_cons, delimited_str, delimited_int, rightInteger,
            rightMutation, delimited_bool, delimited_of_equalsInt rightCount, true_and]
          exact List.forall_mem_nil _)
    simp only [fieldTexts, List.map_cons, List.cons.injEq, Prod.mk.injEq, render_str_inj,
      leftInteger, rightInteger, render_int_inj, true_and] at same
    obtain ⟨runner, -, leaseId, leaseDigest, -, execution, epoch, -⟩ := same
    exact ⟨runner, ⟨leaseId, leaseDigest⟩, execution,
      leftInteger.trans ((congrArg Json.int epoch).trans rightInteger.symm)⟩
  · exact .inr ⟨texts, leftDigest.symm.trans (digests.trans rightDigest)⟩

end RunnerBoundaryV3

structure CredentialBrokerPolicy where
  (credentialClass provider audience : String)
  (allowedCapabilityDefinitionIdentities enabledEnvironments : List String)
  accessMode : String
  providerMutationAllowed : Json
  (policyRevision policyDigest : String)
deriving DecidableEq

structure CredentialBrokerPolicyV2 where
  (credentialClass provider audience capabilityDefinitionIdentity : String)
  (controlledWriteRequirementDigest atomicProviderConditionContractIdentity : String)
  (environment accessMode providerOperation : String)
  (providerMutationAllowed maxProviderMutations : Json)
  maxTtlSeconds : Nat
  (policyRevision policyDigest : String)
  ttl_bounded : 1 ≤ maxTtlSeconds ∧ maxTtlSeconds ≤ maxWriteCredentialTtlSeconds
deriving DecidableEq

structure CredentialBrokerPolicyV3 where
  (credentialClass provider audience capabilityDefinitionIdentity : String)
  (rollbackRequirementDigest environment accessMode providerOperation : String)
  (providerMutationAllowed maxProviderMutations : Json)
  maxTtlSeconds : Nat
  (policyRevision policyDigest : String)
  ttl_bounded : 1 ≤ maxTtlSeconds ∧ maxTtlSeconds ≤ maxWriteCredentialTtlSeconds
deriving DecidableEq

namespace CredentialBrokerPolicyV3

def claims (policy : CredentialBrokerPolicyV3) : Json :=
  .object [("schema_version", .int 3), ("policy_type", .str "credential-broker-policy/v3"),
    ("credential_class", .str policy.credentialClass),
    ("provider", .str policy.provider),
    ("audience", .str policy.audience),
    ("capability_definition_identity", .str policy.capabilityDefinitionIdentity),
    ("rollback_requirement_digest", .str policy.rollbackRequirementDigest),
    ("environment", .str policy.environment),
    ("access_mode", .str policy.accessMode),
    ("provider_operation", .str policy.providerOperation),
    ("provider_mutation_allowed", policy.providerMutationAllowed),
    ("max_provider_mutations", policy.maxProviderMutations),
    ("max_ttl_seconds", .int policy.maxTtlSeconds),
    ("policy_revision", .str policy.policyRevision)]

/-- `__post_init__`, with the bounds of the lifetime in the type. -/
def postInit (sha256 : String → String) (policy : CredentialBrokerPolicyV3) :
    Except Raised Unit := do
  requireDigestFields
    [("capability_definition_identity", policy.capabilityDefinitionIdentity),
      ("rollback_requirement_digest", policy.rollbackRequirementDigest),
      ("policy_digest", policy.policyDigest)]
  raiseIf (policy.credentialClass ≠ githubDeleteRefCredentialClass ∨
      policy.provider ≠ githubProvider ∨ policy.audience ≠ githubApiAudience)
    (valueError "rollback credential policy provider/class/audience is invalid")
  raiseIf (policy.environment ≠ stagingEnvironment ∨ policy.accessMode ≠ writeBoundedAccessMode ∨
      policy.providerOperation ≠ deleteRefOperation)
    (valueError "rollback credential policy scope is invalid")
  raiseIf (policy.providerMutationAllowed ≠ .bool true ∨
      policy.maxProviderMutations.equalsInt 1 = false)
    (valueError "rollback credential policy allows exactly one mutation")
  let _ ← requireText (.str policy.policyRevision) "policy_revision"
  raiseIf (policy.policyDigest ≠ digestOf sha256 policy.claims)
    (valueError "policy_digest does not match credential-broker-policy/v3")

end CredentialBrokerPolicyV3

end VoodooOne
