import VoodooOne.ReadTerminal.VerifierSetup

/-!
# Reading a reference in a runtime

The handler reads the reference of a target once, in an activated runtime whose lease is current,
and makes an observation of what the provider answered.
-/

namespace VoodooOne

/-- `_require_repository`. -/
def requireReadRepository (value : Json) : Except Raised String := do
  let repository ← requireText value "repository"
  requireRepositoryForm (.str repository)
  return repository

/-- `_require_ref`. -/
def requireReadRef (value : Json) : Except Raised String := do
  let ref ← requireText value "ref"
  requireRefForm (.str ref)
  return ref

def requireGitObjectId (value : Json) (field : String) : Except Raised String := do
  let text ← requireText value field
  requireObjectIdForm field (.str text)
  return text

/-- `_parse_git_ref_target`: repository and reference of a target. -/
def ExecutionTarget.parseGitRef (target : ExecutionTarget) : Except Raised (String × String) := do
  raiseIf (target.targetKind ≠ githubRefTargetKind)
    (permissionDenied "GITHUB_READ_TARGET_KIND_MISMATCH")
  raiseIf (¬HasExactly (target.targetClaims.keys.getD []) ["repository", "ref"])
    (permissionDenied "GITHUB_READ_TARGET_FIELDS_INVALID")
  catching [.valueError] (permissionDenied "GITHUB_READ_TARGET_INVALID") do
    let repository ← requireReadRepository (target.targetClaims.get "repository")
    let ref ← requireReadRef (target.targetClaims.get "ref")
    return (repository, ref)

theorem requireReadRepository_eq_ok {value : Json} {repository : String} :
    requireReadRepository value = .ok repository ↔
      value = .str repository ∧ ValidText repository ∧ matchesRepository repository = true := by
  simp only [requireReadRepository, bind_eq_ok, requireText_eq_ok, pure_eq_ok]
  constructor
  · rintro ⟨_, ⟨rfl, valid⟩, _, form, rfl⟩
    exact ⟨rfl, valid, requireRepositoryForm_str.mp form⟩
  · rintro ⟨rfl, valid, form⟩
    exact ⟨_, ⟨rfl, valid⟩, (), requireRepositoryForm_str.mpr form, rfl⟩

theorem requireReadRef_eq_ok {value : Json} {ref : String} : requireReadRef value = .ok ref ↔
    value = .str ref ∧ ValidText ref ∧
      ∃ suffix, refSuffix ref = some suffix ∧ validSuffix suffix = true := by
  simp only [requireReadRef, bind_eq_ok, requireText_eq_ok, pure_eq_ok]
  constructor
  · rintro ⟨_, ⟨rfl, valid⟩, _, form, rfl⟩
    exact ⟨rfl, valid, requireRefForm_str.mp form⟩
  · rintro ⟨rfl, valid, form⟩
    exact ⟨_, ⟨rfl, valid⟩, (), requireRefForm_str.mpr form, rfl⟩

theorem requireGitObjectId_eq_ok {value : Json} {field text : String} :
    requireGitObjectId value field = .ok text ↔
      value = .str text ∧ ValidText text ∧ isGitObjectId text = true := by
  simp only [requireGitObjectId, bind_eq_ok, requireText_eq_ok, pure_eq_ok]
  constructor
  · rintro ⟨_, ⟨rfl, valid⟩, _, form, rfl⟩
    exact ⟨rfl, valid, requireObjectIdForm_str.mp form⟩
  · rintro ⟨rfl, valid, form⟩
    exact ⟨_, ⟨rfl, valid⟩, (), requireObjectIdForm_str.mpr form, rfl⟩

theorem ExecutionTarget.validTexts_of_parse {target : ExecutionTarget} {repository ref : String}
    (parsed : target.parseGitRef = .ok (repository, ref)) :
    ValidText repository ∧ ValidText ref := by
  simp only [parseGitRef, bind_eq_ok, catching_eq_ok, requireReadRepository_eq_ok,
    requireReadRef_eq_ok, pure_eq_ok, Prod.mk.injEq] at parsed
  obtain ⟨_, -, _, -, _, ⟨-, repositoryValid, -⟩, _, ⟨-, refValid, -⟩, rfl, rfl⟩ := parsed
  exact ⟨repositoryValid, refValid⟩

namespace PreparedIsolatedRuntime

def assertActivationBound (prepared : PreparedIsolatedRuntime)
    (activation : ReadOnlyRuntimeActivation) : Except Raised Unit := do
  let { bootstrap, identity, boundary, decision, lease } := prepared
  raiseIf (activation.provider ≠ bootstrap.provider)
    (permissionDenied "GITHUB_READ_PROVIDER_MISMATCH")
  raiseIf (activation.providerInstanceId ≠ bootstrap.providerInstanceId)
    (permissionDenied "GITHUB_READ_PROVIDER_INSTANCE_MISMATCH")
  raiseIf (activation.runnerId ≠ identity.runnerId)
    (permissionDenied "GITHUB_READ_RUNNER_MISMATCH")
  raiseIf (activation.runnerIdentityDigest ≠ identity.identityDigest)
    (permissionDenied "GITHUB_READ_RUNNER_IDENTITY_MISMATCH")
  raiseIf (activation.runnerBoundaryDigest ≠ boundary.boundaryDigest)
    (permissionDenied "GITHUB_READ_BOUNDARY_MISMATCH")
  raiseIf (activation.credentialDecisionId ≠ decision.decisionId)
    (permissionDenied "GITHUB_READ_CREDENTIAL_DECISION_MISMATCH")
  raiseIf (activation.credentialDecisionDigest ≠ decision.decisionDigest)
    (permissionDenied "GITHUB_READ_CREDENTIAL_DECISION_MISMATCH")
  raiseIf (activation.leaseId ≠ lease.leaseId) (permissionDenied "GITHUB_READ_LEASE_MISMATCH")
  raiseIf (activation.leaseDigest ≠ lease.leaseDigest)
    (permissionDenied "GITHUB_READ_LEASE_MISMATCH")
  raiseIf (activation.executionEpoch ≠ lease.executionEpoch)
    (permissionDenied "GITHUB_READ_EPOCH_MISMATCH")
  raiseIf (activation.executionCapsuleDigest ≠ boundary.executionCapsuleDigest)
    (permissionDenied "GITHUB_READ_CAPSULE_MISMATCH")
  raiseIf (activation.capabilityDefinitionIdentity ≠ boundary.capabilityDefinitionIdentity)
    (permissionDenied "GITHUB_READ_CAPABILITY_MISMATCH")
  raiseIf (decision.provider ≠ githubProvider)
    (permissionDenied "GITHUB_READ_CREDENTIAL_PROVIDER_MISMATCH")
  raiseIf (decision.accessMode ≠ .str readOnlyAccessMode)
    (permissionDenied "GITHUB_READ_CREDENTIAL_NOT_READ_ONLY")
  raiseIf (decision.providerMutationAllowed ≠ .bool false)
    (permissionDenied "GITHUB_READ_MUTATION_ALLOWED")

end PreparedIsolatedRuntime

namespace GitHubRefObservation

/-- What an observation says, without its digest. -/
def draft (repository ref commitSha : String) (target : ExecutionTarget)
    (activation : ReadOnlyRuntimeActivation) (sourceIdentity : String)
    (clockWitness : ClockWitness) (observationRevision : String) : GitHubRefObservation where
  repository
  ref
  commitSha
  targetDigest := target.targetDigest
  provider := activation.provider
  providerInstanceId := activation.providerInstanceId
  runnerId := activation.runnerId
  runnerBoundaryDigest := activation.runnerBoundaryDigest
  credentialDecisionDigest := activation.credentialDecisionDigest
  runtimeActivationDigest := activation.activationDigest
  leaseId := activation.leaseId
  leaseDigest := activation.leaseDigest
  executionId := activation.executionId
  executionEpoch := activation.executionEpoch
  executionCapsuleDigest := activation.executionCapsuleDigest
  capabilityDefinitionIdentity := activation.capabilityDefinitionIdentity
  sourceIdentity
  clockSourceIdentity := clockWitness.sourceIdentity
  clockWitnessDigest := clockWitness.witnessDigest
  observedAt := clockWitness.observedAt
  observationRevision
  observationDigest := ""

def create (sha256 : String → String) (repository ref commitSha : String)
    (target : ExecutionTarget) (prepared : PreparedIsolatedRuntime)
    (activation : ReadOnlyRuntimeActivation) (sourceIdentity : String)
    (clockWitness : ClockWitness) (observationRevision : String) :
    Except Raised GitHubRefObservation := do
  prepared.assertActivationBound activation
  let repository ← requireReadRepository (.str repository)
  let ref ← requireReadRef (.str ref)
  let commitSha ← requireGitObjectId (.str commitSha) "commit_sha"
  requireTextFields [("source_identity", sourceIdentity),
    ("observation_revision", observationRevision)]
  raiseIf (clockWitness.environment ≠ prepared.lease.environment)
    (permissionDenied "GITHUB_READ_CLOCK_ENVIRONMENT_MISMATCH")
  contract.create sha256 (draft repository ref commitSha target activation sourceIdentity
    clockWitness observationRevision)

end GitHubRefObservation

def TrustedClockAuthority.Constructed (authority : TrustedClockAuthority) : Prop :=
  ValidText authority.sourceIdentity ∧ ValidText authority.authorityRevision ∧
    authority.allowedEnvironments ≠ [] ∧
      ∀ environment ∈ authority.allowedEnvironments, environment ∈ validEnvironments

/-- What the fence, the transport and the clock answer while a reference is read. -/
structure ReadAnswers where
  /-- `current_fence.assert_current`. -/
  current : Except Raised Unit
  /-- `transport.read_ref`. -/
  commitSha : Except Raised Json
  /-- What the clock source returns. -/
  reading : ClockReading

structure GitHubRefReadHandler where
  trustedClock : TrustedClockAuthority
  (sourceIdentity observationRevision : String)
  clockConstructed : trustedClock.Constructed
  texts : ∀ named ∈ [("observation_revision", observationRevision),
    ("source_identity", sourceIdentity)], ValidText named.2

def GitHubRefReadHandler.observeRef (handler : GitHubRefReadHandler) (sha256 : String → String)
    (answers : ReadAnswers) (prepared : PreparedIsolatedRuntime)
    (activation : ReadOnlyRuntimeActivation) (target : ExecutionTarget) :
    Except Raised GitHubRefObservation := do
  prepared.assertActivationBound activation
  let named ← target.parseGitRef
  answers.current
  let answered ← answers.commitSha
  let commitSha ← requireGitObjectId answered "commit_sha"
  let clockWitness ← handler.trustedClock.witness sha256 prepared.lease.environment answers.reading
  GitHubRefObservation.create sha256 named.1 named.2 commitSha target prepared activation
    handler.sourceIdentity clockWitness handler.observationRevision

open Calendar

/-- A verifier with its boundary and its decision, and the target that it reads. -/
structure VerifierAccess where
  verifier : VerifierIdentity
  boundary : IndependentVerificationBoundary
  decision : VerifierCredentialDecision
  target : ExecutionTarget

namespace VerifierAccess

def assertExactBinding (access : VerifierAccess) : Except Raised Unit := do
  let { verifier, boundary, decision, target } := access
  raiseIf (verifier.verifierId ≠ boundary.verifierId)
    (permissionDenied "VERIFIER_IDENTITY_BINDING_MISMATCH")
  raiseIf (verifier.identityDigest ≠ boundary.verifierIdentityDigest)
    (permissionDenied "VERIFIER_IDENTITY_DIGEST_MISMATCH")
  raiseIf (verifier.verifierClass ≠ boundary.verifierClass)
    (permissionDenied "VERIFIER_CLASS_MISMATCH")
  raiseIf (verifier.provider ≠ boundary.verifierProvider)
    (permissionDenied "VERIFIER_PROVIDER_MISMATCH")
  raiseIf (verifier.providerInstanceId ≠ boundary.verifierProviderInstanceId)
    (permissionDenied "VERIFIER_PROVIDER_INSTANCE_MISMATCH")
  raiseIf (verifier.credentialClass ≠ boundary.verifierCredentialClass)
    (permissionDenied "VERIFIER_CREDENTIAL_CLASS_MISMATCH")
  raiseIf (verifier.environment ≠ boundary.environment)
    (permissionDenied "VERIFIER_ENVIRONMENT_MISMATCH")
  raiseIf (decision.verifierId ≠ verifier.verifierId)
    (permissionDenied "VERIFIER_DECISION_IDENTITY_MISMATCH")
  raiseIf (decision.verifierIdentityDigest ≠ verifier.identityDigest)
    (permissionDenied "VERIFIER_DECISION_IDENTITY_DIGEST_MISMATCH")
  raiseIf (decision.verificationBoundaryDigest ≠ boundary.boundaryDigest)
    (permissionDenied "VERIFIER_DECISION_BOUNDARY_MISMATCH")
  raiseIf (decision.runnerObservationDigest ≠ boundary.runnerObservationDigest)
    (permissionDenied "VERIFIER_DECISION_RUNNER_OBSERVATION_MISMATCH")
  raiseIf (decision.targetDigest ≠ boundary.targetDigest ∨
      decision.targetDigest ≠ target.targetDigest)
    (permissionDenied "VERIFIER_TARGET_BINDING_MISMATCH")
  raiseIf (decision.executionId ≠ boundary.executionId)
    (permissionDenied "VERIFIER_EXECUTION_BINDING_MISMATCH")
  raiseIf (decision.executionEpoch ≠ boundary.executionEpoch)
    (permissionDenied "VERIFIER_EXECUTION_EPOCH_MISMATCH")
  raiseIf (decision.credentialClass ≠ verifier.credentialClass)
    (permissionDenied "VERIFIER_DECISION_CREDENTIAL_CLASS_MISMATCH")
  raiseIf (decision.provider ≠ verifier.provider)
    (permissionDenied "VERIFIER_DECISION_PROVIDER_MISMATCH")
  raiseIf (decision.environment ≠ verifier.environment)
    (permissionDenied "VERIFIER_DECISION_ENVIRONMENT_MISMATCH")
  raiseIf (decision.accessMode ≠ .str readOnlyAccessMode)
    (permissionDenied "VERIFIER_DECISION_NOT_READ_ONLY")
  raiseIf (decision.providerMutationAllowed ≠ .bool false)
    (permissionDenied "VERIFIER_DECISION_MUTATION_ALLOWED")
  raiseIf (boundary.providerMutationAllowed ≠ .bool false)
    (permissionDenied "VERIFIER_BOUNDARY_MUTATION_ALLOWED")

end VerifierAccess

/-- `_assert_credential_current`. -/
def VerifierCredentialDecision.assertCurrent (decision : VerifierCredentialDecision)
    (clockWitness : ClockWitness) : Except Raised Unit := do
  raiseIf (clockWitness.environment ≠ decision.environment)
    (permissionDenied "VERIFIER_CLOCK_ENVIRONMENT_MISMATCH")
  let observed ← requireTimestamp (.str clockWitness.observedAt) "clock_witness.observed_at"
  let validFrom ← requireTimestamp (.str decision.validFrom) "decision.valid_from"
  let expiresAt ← requireTimestamp (.str decision.expiresAt) "decision.expires_at"
  raiseIf (observed < validFrom) (permissionDenied "VERIFIER_CREDENTIAL_NOT_YET_VALID")
  raiseIf (observed ≥ expiresAt) (permissionDenied "VERIFIER_CREDENTIAL_EXPIRED")

namespace VerifierGitHubRefObservation

/-- What an observation says, without its digest. -/
def draft (repository ref commitSha : String) (access : VerifierAccess)
    (accessClockWitness observationClockWitness : ClockWitness)
    (sourceIdentity observationRevision : String) : VerifierGitHubRefObservation where
  repository
  ref
  commitSha
  targetDigest := access.target.targetDigest
  provider := access.verifier.provider
  providerInstanceId := access.verifier.providerInstanceId
  verifierId := access.verifier.verifierId
  verifierIdentityDigest := access.verifier.identityDigest
  verificationBoundaryDigest := access.boundary.boundaryDigest
  verifierCredentialDecisionId := access.decision.decisionId
  verifierCredentialDecisionDigest := access.decision.decisionDigest
  runnerObservationDigest := access.boundary.runnerObservationDigest
  executionId := access.boundary.executionId
  executionEpoch := access.boundary.executionEpoch
  sourceIdentity
  accessClockSourceIdentity := accessClockWitness.sourceIdentity
  accessClockWitnessDigest := accessClockWitness.witnessDigest
  credentialCheckedAt := accessClockWitness.observedAt
  clockSourceIdentity := observationClockWitness.sourceIdentity
  clockWitnessDigest := observationClockWitness.witnessDigest
  observedAt := observationClockWitness.observedAt
  observationRevision
  observationDigest := ""

def create (sha256 : String → String) (repository ref commitSha : String)
    (access : VerifierAccess) (accessClockWitness observationClockWitness : ClockWitness)
    (sourceIdentity observationRevision : String) :
    Except Raised VerifierGitHubRefObservation := do
  access.assertExactBinding
  access.decision.assertCurrent accessClockWitness
  raiseIf (observationClockWitness.environment ≠ access.verifier.environment)
    (permissionDenied "VERIFIER_OBSERVATION_CLOCK_ENVIRONMENT_MISMATCH")
  requireTextFields [("repository", repository), ("ref", ref)]
  let commitSha ← requireGitObjectId (.str commitSha) "commit_sha"
  requireTextFields [("source_identity", sourceIdentity),
    ("observation_revision", observationRevision)]
  contract.create sha256 (draft repository ref commitSha access accessClockWitness
    observationClockWitness sourceIdentity observationRevision)

end VerifierGitHubRefObservation

/-- What the transport and the clock answer while the verifier reads. -/
structure VerifierAnswers where
  /-- What the clock source returns before the reference is read. -/
  access : ClockReading
  /-- `transport.read_ref`. -/
  commitSha : Except Raised Json
  /-- What the clock source returns afterwards. -/
  observation : ClockReading

structure VerifierGitHubRefReadHandler where
  trustedClock : TrustedClockAuthority
  (sourceIdentity observationRevision : String)
  clockConstructed : trustedClock.Constructed
  texts : ∀ named ∈ [("observation_revision", observationRevision),
    ("source_identity", sourceIdentity)], ValidText named.2

def VerifierGitHubRefReadHandler.observeRef (handler : VerifierGitHubRefReadHandler)
    (sha256 : String → String) (answers : VerifierAnswers) (access : VerifierAccess) :
    Except Raised VerifierGitHubRefObservation := do
  access.assertExactBinding
  let named ← catching [.permissionError] (permissionDenied "VERIFIER_TARGET_INVALID")
    access.target.parseGitRef
  let environment := access.verifier.environment
  let accessClockWitness ← handler.trustedClock.witness sha256 environment answers.access
  access.decision.assertCurrent accessClockWitness
  let answered ← answers.commitSha
  let commitSha ← requireGitObjectId answered "commit_sha"
  let observationClockWitness ← handler.trustedClock.witness sha256 environment
    answers.observation
  VerifierGitHubRefObservation.create sha256 named.1 named.2 commitSha access accessClockWitness
    observationClockWitness handler.sourceIdentity handler.observationRevision

end VoodooOne
