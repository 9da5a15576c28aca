import VoodooOne.Credential.Decisions
import VoodooOne.Runtime.Capability
import VoodooOne.Verification.Absence

/-!
# Control of a rollback

A rollback deletes exactly the reference that an earlier execution created.  A condition names that
reference, a boundary limits the runner, and a request says what is to be deleted.
-/

namespace VoodooOne

def githubRefTargetKind : String := "git_ref"

def deleteExactTargetOnly : String := "DELETE_EXACT_TARGET_ONLY"

def recreateExactDeletedRefSeparateAuthority : String :=
  "RECREATE_EXACT_DELETED_REF_SEPARATE_AUTHORITY"

def providerReadVerificationClass : String := "provider-read/v1"

def vOneCanaryRefPrefix : String := "refs/heads/vone-canary/"

/-- What follows the prefix of a canary reference. -/
def canarySuffix (ref : String) : Option (List Char) :=
  if vOneCanaryRefPrefix.toList <+: ref.toList then
    some (ref.toList.drop vOneCanaryRefPrefix.toList.length)
  else none

/-- `_SHA1`. -/
def isSha1 (text : String) : Bool :=
  text.length == 40 && text.toList.all fun character => "0123456789abcdef".toList.contains character

/-- The form that `_canary_ref` asks for, on a text field. -/
def requireCanaryRefForm : Json → Except Raised Unit
  | .str text => do
      let suffix ← orRaise (valueError "rollback ref must remain inside V-One canary namespace")
        (canarySuffix text)
      raiseIf (validSuffix suffix = false) (valueError "rollback ref is invalid")
  | _ => .error (valueError "ref is invalid")

/-- The form that `_sha1` asks for, on a text field. -/
def requireSha1Form (field : String) : Json → Except Raised Unit
  | .str text => raiseIf (isSha1 text = false)
      (valueError (field ++ " must be a lowercase 40-character Git object id"))
  | _ => .error (valueError (field ++ " is invalid"))

/-- `_repository`. -/
def requireRepository (text : String) : Except Raised Unit := do
  let _ ← requireText (.str text) "repository"
  requireRepositoryForm (.str text)

/-- `_canary_ref`. -/
def requireCanaryRef (text : String) : Except Raised Unit := do
  let _ ← requireText (.str text) "ref"
  requireCanaryRefForm (.str text)

/-- `_sha1`. -/
def requireSha1 (field text : String) : Except Raised Unit := do
  let _ ← requireText (.str text) field
  requireSha1Form field (.str text)

def requireOne (message : String) (value : Json) : Except Raised Unit :=
  raiseIf (value.equalsInt 1 = false) (valueError message)

/-- The names are the expected ones, in any order. -/
def HasExactly (actual expected : List String) : Prop :=
  (∀ name ∈ actual, name ∈ expected) ∧ ∀ name ∈ expected, name ∈ actual

instance (actual expected : List String) : Decidable (HasExactly actual expected) :=
  inferInstanceAs (Decidable (_ ∧ _))

/-- `GitHubDeleteRefConditionContract`.  Which reference may be deleted, and why. -/
structure GitHubDeleteRefConditionContract where
  (repository ref expectedSha originalCreateResponseDigest : String)
  (originalVerificationResultDigest provider operation targetKind temporalModel : String)
  (deleteSemantics verificationClass contractRevision contractDigest : String)
deriving DecidableEq

namespace GitHubDeleteRefConditionContract

/-- `_claims`, apart from version and type. -/
def claims (condition : GitHubDeleteRefConditionContract) : List (String × Json) :=
  [("repository", .str condition.repository),
    ("ref", .str condition.ref),
    ("expected_sha", .str condition.expectedSha),
    ("original_create_response_digest", .str condition.originalCreateResponseDigest),
    ("original_verification_result_digest", .str condition.originalVerificationResultDigest),
    ("provider", .str condition.provider),
    ("operation", .str condition.operation),
    ("target_kind", .str condition.targetKind),
    ("temporal_model", .str condition.temporalModel),
    ("delete_semantics", .str condition.deleteSemantics),
    ("verification_class", .str condition.verificationClass),
    ("contract_revision", .str condition.contractRevision)]

def ofAttributes (self : Attributes) : GitHubDeleteRefConditionContract where
  repository := self.text "repository"
  ref := self.text "ref"
  expectedSha := self.text "expected_sha"
  originalCreateResponseDigest := self.text "original_create_response_digest"
  originalVerificationResultDigest := self.text "original_verification_result_digest"
  provider := self.text "provider"
  operation := self.text "operation"
  targetKind := self.text "target_kind"
  temporalModel := self.text "temporal_model"
  deleteSemantics := self.text "delete_semantics"
  verificationClass := self.text "verification_class"
  contractRevision := self.text "contract_revision"
  contractDigest := self.text "contract_digest"

def contract : Contract GitHubDeleteRefConditionContract where
  contractType := "github-delete-exact-created-ref-condition/v1"
  typeField := "condition_type"
  digestField := "contract_digest"
  mismatch := "contract_digest does not match delete-ref condition"
  attributes :=
    ["repository", "ref", "expected_sha", "original_create_response_digest",
      "original_verification_result_digest", "provider", "operation", "target_kind",
      "temporal_model", "delete_semantics", "verification_class", "contract_revision"].map
      fun field => (field, .text)
  checks :=
    requireTexts ["repository", "ref", "expected_sha"] ++
    [.satisfies "repository" requireRepositoryForm, .satisfies "ref" requireCanaryRefForm,
      .satisfies "expected_sha" (requireSha1Form "expected_sha")] ++
    requireDigests ["original_create_response_digest", "original_verification_result_digest",
      "contract_digest"] ++
    requireTexts ["provider", "operation", "target_kind", "temporal_model", "delete_semantics",
      "verification_class", "contract_revision"] ++
    [.equals "provider" githubProvider "rollback provider operation must be GitHub DELETE_REF",
      .equals "operation" deleteRefOperation
        "rollback provider operation must be GitHub DELETE_REF",
      .equals "target_kind" githubRefTargetKind "rollback target kind must be git_ref",
      .equals "temporal_model" readThenDeleteNonAtomic
        "rollback must disclose READ_THEN_DELETE_NON_ATOMIC semantics",
      .equals "delete_semantics" deleteExactTargetOnly
        "rollback delete semantics are unsupported",
      .equals "verification_class" providerReadVerificationClass
        "rollback verification must use provider readback"]
  ofAttributes := ofAttributes
  claims := claims
  digest := contractDigest
  withDigest condition digest := { condition with contractDigest := digest }
  check _ _ := .ok ()

theorem lawful : contract.Lawful where
  ofAttributes_eq self condition digest same := by
    simp only [contract, claims, List.cons_append, List.nil_append, List.forall_mem_cons] at same
    simp [contract, ofAttributes, Attributes.text, Json.text?, same]

def create (sha256 : String → String) (repository ref expectedSha originalCreateResponseDigest
    originalVerificationResultDigest contractRevision : String) :
    Except Raised GitHubDeleteRefConditionContract := do
  requireRepository repository
  requireCanaryRef ref
  requireSha1 "expected_sha" expectedSha
  requireDigestFields
    [("original_create_response_digest", originalCreateResponseDigest),
      ("original_verification_result_digest", originalVerificationResultDigest)]
  let _ ← requireText (.str contractRevision) "contract_revision"
  contract.create sha256
    { repository
      ref
      expectedSha
      originalCreateResponseDigest
      originalVerificationResultDigest
      provider := githubProvider
      operation := deleteRefOperation
      targetKind := githubRefTargetKind
      temporalModel := readThenDeleteNonAtomic
      deleteSemantics := deleteExactTargetOnly
      verificationClass := providerReadVerificationClass
      contractRevision
      contractDigest := "" }

end GitHubDeleteRefConditionContract

/-- `RollbackWriteRequirement`.  What a rollback needs of its capability and capsule. -/
structure RollbackWriteRequirement where
  (capabilityDefinitionIdentity executionCapsuleDigest : String)
  (handlerConformanceEvidenceDigest conditionContractDigest : String)
  (verificationContractIdentity effectClass preconditionEnforcementClass : String)
  temporalModel : String
  (maxProviderMutations providerMutationAllowed : Json)
  (rollbackStrategy requirementRevision requirementDigest : String)
deriving DecidableEq

namespace RollbackWriteRequirement

/-- `_claims`, apart from version and type. -/
def claims (requirement : RollbackWriteRequirement) : List (String × Json) :=
  [("capability_definition_identity", .str requirement.capabilityDefinitionIdentity),
    ("execution_capsule_digest", .str requirement.executionCapsuleDigest),
    ("handler_conformance_evidence_digest", .str requirement.handlerConformanceEvidenceDigest),
    ("condition_contract_digest", .str requirement.conditionContractDigest),
    ("verification_contract_identity", .str requirement.verificationContractIdentity),
    ("effect_class", .str requirement.effectClass),
    ("precondition_enforcement_class", .str requirement.preconditionEnforcementClass),
    ("temporal_model", .str requirement.temporalModel),
    ("max_provider_mutations", requirement.maxProviderMutations),
    ("provider_mutation_allowed", requirement.providerMutationAllowed),
    ("rollback_strategy", .str requirement.rollbackStrategy),
    ("requirement_revision", .str requirement.requirementRevision)]

def ofAttributes (self : Attributes) : RollbackWriteRequirement where
  capabilityDefinitionIdentity := self.text "capability_definition_identity"
  executionCapsuleDigest := self.text "execution_capsule_digest"
  handlerConformanceEvidenceDigest := self.text "handler_conformance_evidence_digest"
  conditionContractDigest := self.text "condition_contract_digest"
  verificationContractIdentity := self.text "verification_contract_identity"
  effectClass := self.text "effect_class"
  preconditionEnforcementClass := self.text "precondition_enforcement_class"
  temporalModel := self.text "temporal_model"
  maxProviderMutations := self "max_provider_mutations"
  providerMutationAllowed := self "provider_mutation_allowed"
  rollbackStrategy := self.text "rollback_strategy"
  requirementRevision := self.text "requirement_revision"
  requirementDigest := self.text "requirement_digest"

def contract : Contract RollbackWriteRequirement where
  contractType := "rollback-write-requirement/v1"
  typeField := "requirement_type"
  digestField := "requirement_digest"
  mismatch := "requirement_digest does not match rollback requirement"
  attributes :=
    ["capability_definition_identity", "execution_capsule_digest",
      "handler_conformance_evidence_digest", "condition_contract_digest",
      "verification_contract_identity", "effect_class", "precondition_enforcement_class",
      "temporal_model", "max_provider_mutations", "provider_mutation_allowed",
      "rollback_strategy", "requirement_revision"].map
      fun field => (field, if field ∈ ["max_provider_mutations", "provider_mutation_allowed"]
        then .any else .text)
  checks :=
    requireDigests ["capability_definition_identity", "execution_capsule_digest",
      "handler_conformance_evidence_digest", "condition_contract_digest",
      "verification_contract_identity", "requirement_digest"] ++
    requireTexts ["effect_class", "precondition_enforcement_class", "temporal_model",
      "rollback_strategy", "requirement_revision"] ++
    [.equals "effect_class" mutationReversibleEffectClass
        "rollback effect class must be mutation.reversible",
      .equals "precondition_enforcement_class" readThenCompare
        "rollback requires READ_THEN_COMPARE",
      .equals "temporal_model" readThenDeleteNonAtomic
        "rollback must be explicitly non-atomic",
      .satisfies "max_provider_mutations"
        (requireOne "rollback allows exactly one provider mutation"),
      .satisfies "provider_mutation_allowed"
        (requireTruth true "rollback allows exactly one provider mutation"),
      .equals "rollback_strategy" recreateExactDeletedRefSeparateAuthority
        "rollback-of-rollback strategy is unsupported"]
  ofAttributes := ofAttributes
  claims := claims
  digest := requirementDigest
  withDigest requirement digest := { requirement with requirementDigest := digest }
  check _ _ := .ok ()

theorem lawful : contract.Lawful where
  ofAttributes_eq self requirement digest same := by
    simp only [contract, claims, List.cons_append, List.nil_append, List.forall_mem_cons] at same
    simp [contract, ofAttributes, Attributes.text, Json.text?, same]

end RollbackWriteRequirement

def RunnerIdentity.assertBoundToLease (identity : RunnerIdentity) (lease : ExecutionLease) :
    Except Raised Unit := do
  raiseIf (lease.runnerClass ≠ identity.runnerClass) (permissionDenied "RUNNER_CLASS_MISMATCH")
  raiseIf (lease.environment ≠ identity.environment)
    (permissionDenied "RUNNER_ENVIRONMENT_MISMATCH")

def RunnerBoundaryV3.create (sha256 : String → String) (identity : RunnerIdentity)
    (lease : ExecutionLease) (capsule : ExecutionCapsule) (definition : CapabilityDefinition)
    (requirement : RollbackWriteRequirement) (condition : GitHubDeleteRefConditionContract)
    (boundaryRevision : String) : Except Raised RunnerBoundaryV3 := do
  identity.assertBoundToLease lease
  raiseIf (identity.runnerClass ≠ writeRunnerClass)
    (permissionDenied "ROLLBACK_RUNNER_CLASS_MISMATCH")
  raiseIf (lease.environment ≠ stagingEnvironment ∨
      capsule.capsuleDigest ≠ lease.executionCapsuleDigest)
    (permissionDenied "ROLLBACK_LEASE_CAPSULE_MISMATCH")
  raiseIf (capsule.credentialClass ≠ githubDeleteRefCredentialClass ∨
      capsule.preconditionEnforcementClass ≠ readThenCompare)
    (permissionDenied "ROLLBACK_CAPSULE_RUNTIME_MISMATCH")
  raiseIf (definition.definitionIdentity ≠ capsule.capabilityDefinitionIdentity)
    (permissionDenied "ROLLBACK_DEFINITION_CAPSULE_MISMATCH")
  raiseIf (requirement.capabilityDefinitionIdentity ≠ definition.definitionIdentity ∨
      requirement.executionCapsuleDigest ≠ capsule.capsuleDigest)
    (permissionDenied "ROLLBACK_REQUIREMENT_BINDING_MISMATCH")
  raiseIf (requirement.conditionContractDigest ≠ condition.contractDigest)
    (permissionDenied "ROLLBACK_CONDITION_BINDING_MISMATCH")
  let _ ← requireText (.str boundaryRevision) "boundary_revision"
  let draft : RunnerBoundaryV3 :=
    { runnerId := identity.runnerId
      runnerIdentityDigest := identity.identityDigest
      leaseId := lease.leaseId
      leaseDigest := lease.leaseDigest
      admissionId := lease.admissionId
      executionId := lease.executionId
      executionEpoch := .int lease.executionEpoch
      executionCapsuleDigest := capsule.capsuleDigest
      capabilityDefinitionIdentity := definition.definitionIdentity
      rollbackRequirementDigest := requirement.requirementDigest
      conditionContractDigest := condition.contractDigest
      verificationContractIdentity := capsule.verificationContractIdentity
      environment := lease.environment
      runnerClass := identity.runnerClass
      credentialClass := capsule.credentialClass
      effectCeiling := mutationReversibleEffectClass
      networkEgressDefault := denyAllNetworkDefault
      providerMutationAllowed := .bool true
      maxProviderMutations := .int 1
      temporalModel := readThenDeleteNonAtomic
      boundaryRevision
      boundaryDigest := "" }
  let boundary := { draft with boundaryDigest := digestOf sha256 draft.claims }
  boundary.postInit sha256
  return boundary

/-- `GitHubDeleteRefRequest`.  The request to delete a reference. -/
structure GitHubDeleteRefRequest where
  (repository ref expectedSha targetDigest runnerBoundaryDigest : String)
  (credentialDecisionDigest conditionContractDigest requestRevision requestDigest : String)
deriving DecidableEq

namespace GitHubDeleteRefRequest

/-- `_claims`, apart from version and type. -/
def claims (request : GitHubDeleteRefRequest) : List (String × Json) :=
  [("repository", .str request.repository),
    ("ref", .str request.ref),
    ("expected_sha", .str request.expectedSha),
    ("target_digest", .str request.targetDigest),
    ("runner_boundary_digest", .str request.runnerBoundaryDigest),
    ("credential_decision_digest", .str request.credentialDecisionDigest),
    ("condition_contract_digest", .str request.conditionContractDigest),
    ("request_revision", .str request.requestRevision)]

def ofAttributes (self : Attributes) : GitHubDeleteRefRequest where
  repository := self.text "repository"
  ref := self.text "ref"
  expectedSha := self.text "expected_sha"
  targetDigest := self.text "target_digest"
  runnerBoundaryDigest := self.text "runner_boundary_digest"
  credentialDecisionDigest := self.text "credential_decision_digest"
  conditionContractDigest := self.text "condition_contract_digest"
  requestRevision := self.text "request_revision"
  requestDigest := self.text "request_digest"

def contract : Contract GitHubDeleteRefRequest where
  contractType := "github-delete-exact-created-ref-request/v1"
  typeField := "request_type"
  digestField := "request_digest"
  mismatch := "request_digest does not match delete-ref request"
  attributes :=
    ["repository", "ref", "expected_sha", "target_digest", "runner_boundary_digest",
      "credential_decision_digest", "condition_contract_digest", "request_revision"].map
      fun field => (field, .text)
  checks :=
    requireTexts ["repository", "ref", "expected_sha"] ++
    [.satisfies "repository" requireRepositoryForm, .satisfies "ref" requireCanaryRefForm,
      .satisfies "expected_sha" (requireSha1Form "expected_sha")] ++
    requireDigests ["target_digest", "runner_boundary_digest", "credential_decision_digest",
      "condition_contract_digest", "request_digest"] ++
    requireTexts ["request_revision"]
  ofAttributes := ofAttributes
  claims := claims
  digest := requestDigest
  withDigest request digest := { request with requestDigest := digest }
  check _ _ := .ok ()

theorem lawful : contract.Lawful where
  ofAttributes_eq self request digest same := by
    simp only [contract, claims, List.cons_append, List.nil_append, List.forall_mem_cons] at same
    simp [contract, ofAttributes, Attributes.text, Json.text?, same]

def targetClaimNames : List String :=
  ["repository", "ref", "expected_sha", "original_create_response_digest",
    "original_verification_result_digest"]

def create (sha256 : String → String) (target : ExecutionTarget) (boundary : RunnerBoundaryV3)
    (decision : CredentialAccessDecisionV3) (condition : GitHubDeleteRefConditionContract)
    (requestRevision : String) : Except Raised GitHubDeleteRefRequest := do
  raiseIf (target.targetKind ≠ githubRefTargetKind ∨
      ¬HasExactly (target.targetClaims.keys.getD []) targetClaimNames)
    (permissionDenied "ROLLBACK_REQUEST_TARGET_INVALID")
  raiseIf (target.targetClaims.get "repository" ≠ .str condition.repository ∨
      target.targetClaims.get "ref" ≠ .str condition.ref ∨
      target.targetClaims.get "expected_sha" ≠ .str condition.expectedSha)
    (permissionDenied "ROLLBACK_REQUEST_CONDITION_TARGET_MISMATCH")
  raiseIf (target.targetClaims.get "original_create_response_digest" ≠
        .str condition.originalCreateResponseDigest ∨
      target.targetClaims.get "original_verification_result_digest" ≠
        .str condition.originalVerificationResultDigest)
    (permissionDenied "ROLLBACK_REQUEST_PROVENANCE_MISMATCH")
  raiseIf (boundary.conditionContractDigest ≠ condition.contractDigest ∨
      decision.runnerBoundaryDigest ≠ boundary.boundaryDigest)
    (permissionDenied "ROLLBACK_REQUEST_AUTHORITY_BINDING_MISMATCH")
  let _ ← requireText (.str requestRevision) "request_revision"
  contract.create sha256
    { repository := condition.repository
      ref := condition.ref
      expectedSha := condition.expectedSha
      targetDigest := target.targetDigest
      runnerBoundaryDigest := boundary.boundaryDigest
      credentialDecisionDigest := decision.decisionDigest
      conditionContractDigest := condition.contractDigest
      requestRevision
      requestDigest := "" }

end GitHubDeleteRefRequest

end VoodooOne
