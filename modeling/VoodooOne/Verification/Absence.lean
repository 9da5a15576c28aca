import VoodooOne.Authorization.ExecutionContract
import VoodooOne.Verification.Boundary
import VoodooOne.Verification.Identities

/-!
# Observations of absence

After a rollback a runner and a verifier each look for a reference and find none.  The boundary and
the credential decision of this path are types of their own, and each artifact is created from the
ones before it.
-/

namespace VoodooOne

open Calendar

def absent : String := "ABSENT"

def httpNotFound : Int := 404

/-- The comparison with `HTTP_NOT_FOUND`. -/
def requireNotFound (message : String) (value : Json) : Except Raised Unit :=
  raiseIf (value.equalsInt httpNotFound = false) (valueError message)

/-- `_target_claims`: repository and reference of a target. -/
def ExecutionTarget.gitRefClaims (target : ExecutionTarget) : Except Raised (String × String) := do
  raiseIf (target.targetKind ≠ "git_ref")
    (valueError "rollback verification target must be git_ref")
  match target.targetClaims.get "repository", target.targetClaims.get "ref" with
  | .str repository, .str ref => return (repository, ref)
  | _, _ => .error (valueError "rollback verification target must carry repository and ref")

structure VerifierCredentialPolicy where
  (credentialClass provider audience : String)
  enabledEnvironments : List String
  accessMode : String
  providerMutationAllowed : Json
  maxTtlSeconds : Int
  (policyRevision policyDigest : String)
deriving DecidableEq

namespace VerifierCredentialPolicy

/-- `_claims_without_digest`. -/
def claims (policy : VerifierCredentialPolicy) : Json :=
  .object [("schema_version", .int 1), ("policy_type", .str "verifier-credential-policy/v1"),
    ("credential_class", .str policy.credentialClass),
    ("provider", .str policy.provider),
    ("audience", .str policy.audience),
    ("enabled_environments", .arr (policy.enabledEnvironments.map .str)),
    ("access_mode", .str policy.accessMode),
    ("provider_mutation_allowed", policy.providerMutationAllowed),
    ("max_ttl_seconds", .int policy.maxTtlSeconds),
    ("policy_revision", .str policy.policyRevision)]

def postInit (sha256 : String → String) (policy : VerifierCredentialPolicy) :
    Except Raised Unit := do
  requireTextFields [("credential_class", policy.credentialClass), ("provider", policy.provider),
    ("audience", policy.audience), ("policy_revision", policy.policyRevision)]
  raiseIf (policy.enabledEnvironments = [] ∨
      policy.enabledEnvironments ≠ sortedNames policy.enabledEnvironments.dedup ∨
      ∃ environment ∈ policy.enabledEnvironments, environment ∉ validEnvironments)
    (valueError "enabled_environments are invalid")
  raiseIf (policy.accessMode ≠ readOnlyAccessMode)
    (valueError "Phase-E verifier access mode must be READ_ONLY")
  raiseIf (policy.providerMutationAllowed ≠ .bool false)
    (valueError "Phase-E verifier credential cannot allow provider mutation")
  raiseIf (¬(1 ≤ policy.maxTtlSeconds ∧ policy.maxTtlSeconds ≤ 3600))
    (valueError "max_ttl_seconds must be between 1 and 3600")
  requireDigestFields [("policy_digest", policy.policyDigest)]
  raiseIf (policy.policyDigest ≠ digestOf sha256 policy.claims)
    (valueError "policy_digest does not match verifier credential policy")

end VerifierCredentialPolicy

/-- `GitHubRefAbsenceObservation`.  The runner found no reference. -/
structure GitHubRefAbsenceObservation where
  (repository ref targetDigest provider providerInstanceId runnerId : String)
  (runnerIdentityDigest runnerBoundaryDigest executionId : String)
  executionEpoch : Int
  sourceIdentity : String
  httpStatus : Json
  (presence observedAt observationRevision observationDigest : String)
deriving DecidableEq

namespace GitHubRefAbsenceObservation

/-- `_claims`, apart from version and type. -/
def claims (observation : GitHubRefAbsenceObservation) : List (String × Json) :=
  [("repository", .str observation.repository),
    ("ref", .str observation.ref),
    ("target_digest", .str observation.targetDigest),
    ("provider", .str observation.provider),
    ("provider_instance_id", .str observation.providerInstanceId),
    ("runner_id", .str observation.runnerId),
    ("runner_identity_digest", .str observation.runnerIdentityDigest),
    ("runner_boundary_digest", .str observation.runnerBoundaryDigest),
    ("execution_id", .str observation.executionId),
    ("execution_epoch", .int observation.executionEpoch),
    ("source_identity", .str observation.sourceIdentity),
    ("http_status", observation.httpStatus),
    ("presence", .str observation.presence),
    ("observed_at", .str observation.observedAt),
    ("observation_revision", .str observation.observationRevision)]

def ofAttributes (self : Attributes) : GitHubRefAbsenceObservation where
  repository := self.text "repository"
  ref := self.text "ref"
  targetDigest := self.text "target_digest"
  provider := self.text "provider"
  providerInstanceId := self.text "provider_instance_id"
  runnerId := self.text "runner_id"
  runnerIdentityDigest := self.text "runner_identity_digest"
  runnerBoundaryDigest := self.text "runner_boundary_digest"
  executionId := self.text "execution_id"
  executionEpoch := self.int "execution_epoch"
  sourceIdentity := self.text "source_identity"
  httpStatus := self "http_status"
  presence := self.text "presence"
  observedAt := self.text "observed_at"
  observationRevision := self.text "observation_revision"
  observationDigest := self.text "observation_digest"

def contract : Contract GitHubRefAbsenceObservation where
  contractType := "github-ref-absence-observation/v1"
  typeField := "observation_type"
  digestField := "observation_digest"
  mismatch := "observation_digest does not match github-ref-absence-observation/v1"
  attributes :=
    ["repository", "ref", "target_digest", "provider", "provider_instance_id", "runner_id",
      "runner_identity_digest", "runner_boundary_digest", "execution_id", "execution_epoch",
      "source_identity", "http_status", "presence", "observed_at", "observation_revision"].map
      fun field => (field, if field = "execution_epoch" then .integer else
        if field = "http_status" then .any else .text)
  checks :=
    requireDigests ["target_digest", "runner_id", "runner_identity_digest",
      "runner_boundary_digest", "observation_digest"] ++
    requireTexts ["repository", "ref", "provider", "provider_instance_id", "execution_id",
      "source_identity", "presence", "observation_revision"] ++
    [.timestamp "observed_at", .integer "execution_epoch" 1 "execution_epoch must be >= 1",
      .equals "provider" githubProvider "absence observation provider must be github",
      .satisfies "http_status"
        (requireNotFound "absence observation requires provider 404 / ABSENT"),
      .equals "presence" absent "absence observation requires provider 404 / ABSENT"]
  ofAttributes := ofAttributes
  claims := claims
  digest := observationDigest
  withDigest observation digest := { observation with observationDigest := digest }
  check _ _ := .ok ()

theorem lawful : contract.Lawful where
  ofAttributes_eq self observation digest same := by
    simp only [contract, claims, List.cons_append, List.nil_append, List.forall_mem_cons] at same
    simp [contract, ofAttributes, Attributes.text, Attributes.int, Json.text?, same]

def create (sha256 : String → String) (target : ExecutionTarget) (runnerIdentity : RunnerIdentity)
    (runnerBoundary : RunnerBoundaryV3)
    (providerInstanceId sourceIdentity observedAt observationRevision : String) :
    Except Raised GitHubRefAbsenceObservation := do
  let (repository, ref) ← target.gitRefClaims
  raiseIf (runnerBoundary.runnerId ≠ runnerIdentity.runnerId)
    ⟨.permissionError, "ROLLBACK_ABSENCE_RUNNER_IDENTITY_MISMATCH"⟩
  raiseIf (runnerBoundary.runnerIdentityDigest ≠ runnerIdentity.identityDigest)
    ⟨.permissionError, "ROLLBACK_ABSENCE_RUNNER_DIGEST_MISMATCH"⟩
  requireTextFields [("provider_instance_id", providerInstanceId),
    ("source_identity", sourceIdentity), ("observed_at", observedAt),
    ("observation_revision", observationRevision)]
  let _ ← requireTimestamp (.str observedAt) "observed_at"
  contract.createFrom sha256
    [("repository", .str repository),
      ("ref", .str ref),
      ("target_digest", .str target.targetDigest),
      ("provider", .str githubProvider),
      ("provider_instance_id", .str providerInstanceId),
      ("runner_id", .str runnerIdentity.runnerId),
      ("runner_identity_digest", .str runnerIdentity.identityDigest),
      ("runner_boundary_digest", .str runnerBoundary.boundaryDigest),
      ("execution_id", .str runnerBoundary.executionId),
      ("execution_epoch", runnerBoundary.executionEpoch),
      ("source_identity", .str sourceIdentity),
      ("http_status", .int httpNotFound),
      ("presence", .str absent),
      ("observed_at", .str observedAt),
      ("observation_revision", .str observationRevision)]

structure Shows (observation : GitHubRefAbsenceObservation) (target : ExecutionTarget)
    (runnerIdentity : RunnerIdentity) (runnerBoundary : RunnerBoundaryV3)
    (providerInstanceId observedAt : String) : Prop where
  targetDigest : observation.targetDigest = target.targetDigest
  providerInstance : observation.providerInstanceId = providerInstanceId
  runnerId : observation.runnerId = runnerIdentity.runnerId
  identityDigest : observation.runnerIdentityDigest = runnerIdentity.identityDigest
  boundaryDigest : observation.runnerBoundaryDigest = runnerBoundary.boundaryDigest
  executionId : observation.executionId = runnerBoundary.executionId
  executionEpoch : .int observation.executionEpoch = runnerBoundary.executionEpoch
  httpStatus : observation.httpStatus = .int httpNotFound
  observed : observation.observedAt = observedAt

theorem of_create {sha256 : String → String} {target : ExecutionTarget}
    {runnerIdentity : RunnerIdentity} {runnerBoundary : RunnerBoundaryV3}
    {providerInstanceId sourceIdentity observedAt observationRevision : String}
    {observation : GitHubRefAbsenceObservation}
    (created : create sha256 target runnerIdentity runnerBoundary providerInstanceId sourceIdentity
      observedAt observationRevision = .ok observation) :
    contract.Built sha256 observation ∧
      Shows observation target runnerIdentity runnerBoundary providerInstanceId observedAt := by
  simp only [create, bind_eq_ok] at created
  obtain ⟨_, _, _, _, _, _, _, _, _, _, built⟩ := created
  have same := Contract.claims_of_createFrom lawful rfl built
  simp only [contract, claims, List.cons.injEq, Prod.mk.injEq, Json.str.injEq, true_and] at same
  obtain ⟨-, -, target, -, providerInstance, runner, identity, boundary, execution, epoch, -,
    status, -, observedAt, -⟩ := same
  exact ⟨⟨_, built⟩, target, providerInstance, runner, identity, boundary, execution, epoch,
    status, observedAt⟩

end GitHubRefAbsenceObservation

structure IndependentVerificationBoundaryV2 where
  (verifierId verifierIdentityDigest verifierProviderInstanceId : String)
  (verifierCredentialClass runnerId runnerIdentityDigest runnerBoundaryDigest : String)
  (runnerProviderInstanceId runnerCredentialClass executionId : String)
  executionEpoch : Int
  (targetDigest runnerObservationDigest environment : String)
  providerMutationAllowed : Json
  (independenceClass boundaryRevision boundaryDigest : String)
deriving DecidableEq

namespace IndependentVerificationBoundaryV2

/-- `_claims`, apart from version and type. -/
def claims (boundary : IndependentVerificationBoundaryV2) : List (String × Json) :=
  [("verifier_id", .str boundary.verifierId),
    ("verifier_identity_digest", .str boundary.verifierIdentityDigest),
    ("verifier_provider_instance_id", .str boundary.verifierProviderInstanceId),
    ("verifier_credential_class", .str boundary.verifierCredentialClass),
    ("runner_id", .str boundary.runnerId),
    ("runner_identity_digest", .str boundary.runnerIdentityDigest),
    ("runner_boundary_digest", .str boundary.runnerBoundaryDigest),
    ("runner_provider_instance_id", .str boundary.runnerProviderInstanceId),
    ("runner_credential_class", .str boundary.runnerCredentialClass),
    ("execution_id", .str boundary.executionId),
    ("execution_epoch", .int boundary.executionEpoch),
    ("target_digest", .str boundary.targetDigest),
    ("runner_observation_digest", .str boundary.runnerObservationDigest),
    ("environment", .str boundary.environment),
    ("provider_mutation_allowed", boundary.providerMutationAllowed),
    ("independence_class", .str boundary.independenceClass),
    ("boundary_revision", .str boundary.boundaryRevision)]

def ofAttributes (self : Attributes) : IndependentVerificationBoundaryV2 where
  verifierId := self.text "verifier_id"
  verifierIdentityDigest := self.text "verifier_identity_digest"
  verifierProviderInstanceId := self.text "verifier_provider_instance_id"
  verifierCredentialClass := self.text "verifier_credential_class"
  runnerId := self.text "runner_id"
  runnerIdentityDigest := self.text "runner_identity_digest"
  runnerBoundaryDigest := self.text "runner_boundary_digest"
  runnerProviderInstanceId := self.text "runner_provider_instance_id"
  runnerCredentialClass := self.text "runner_credential_class"
  executionId := self.text "execution_id"
  executionEpoch := self.int "execution_epoch"
  targetDigest := self.text "target_digest"
  runnerObservationDigest := self.text "runner_observation_digest"
  environment := self.text "environment"
  providerMutationAllowed := self "provider_mutation_allowed"
  independenceClass := self.text "independence_class"
  boundaryRevision := self.text "boundary_revision"
  boundaryDigest := self.text "boundary_digest"

def contract : Contract IndependentVerificationBoundaryV2 where
  schemaVersion := 2
  contractType := "independent-verification-boundary/v2"
  typeField := "boundary_type"
  digestField := "boundary_digest"
  mismatch := "boundary_digest does not match independent-verification-boundary/v2"
  attributes :=
    ["verifier_id", "verifier_identity_digest", "verifier_provider_instance_id",
      "verifier_credential_class", "runner_id", "runner_identity_digest",
      "runner_boundary_digest", "runner_provider_instance_id", "runner_credential_class",
      "execution_id", "execution_epoch", "target_digest", "runner_observation_digest",
      "environment", "provider_mutation_allowed", "independence_class", "boundary_revision"].map
      fun field => (field, if field = "execution_epoch" then .integer else
        if field = "provider_mutation_allowed" then .any else .text)
  checks :=
    requireDigests ["verifier_id", "verifier_identity_digest", "runner_id",
      "runner_identity_digest", "runner_boundary_digest", "target_digest",
      "runner_observation_digest", "boundary_digest"] ++
    requireTexts ["verifier_provider_instance_id", "verifier_credential_class",
      "runner_provider_instance_id", "runner_credential_class", "execution_id", "environment",
      "independence_class", "boundary_revision"] ++
    [.integer "execution_epoch" 1 "execution_epoch must be >= 1",
      .equals "environment" stagingEnvironment "rollback verifier boundary is staging-only",
      .satisfies "provider_mutation_allowed"
        (requireTruth false "verifier boundary cannot mutate providers"),
      .equals "independence_class" VoodooOne.independenceClass "independence_class is unsupported"]
  ofAttributes := ofAttributes
  claims := claims
  digest := boundaryDigest
  withDigest boundary digest := { boundary with boundaryDigest := digest }
  check _ boundary := do
    raiseIf (boundary.verifierId = boundary.runnerId)
      (valueError "VerifierIdentity must differ from RunnerIdentity")
    raiseIf (boundary.verifierProviderInstanceId = boundary.runnerProviderInstanceId)
      (valueError "Verifier provider instance must differ from Runner provider instance")
    raiseIf (boundary.verifierCredentialClass = boundary.runnerCredentialClass)
      (valueError "Verifier credential class must differ from Runner credential class")

theorem lawful : contract.Lawful where
  ofAttributes_eq self boundary digest same := by
    simp only [contract, claims, List.cons_append, List.nil_append, List.forall_mem_cons] at same
    simp [contract, ofAttributes, Attributes.text, Attributes.int, Json.text?, same]

def create (sha256 : String → String) (verifier : VerifierIdentity)
    (runnerIdentity : RunnerIdentity) (runnerBoundary : RunnerBoundaryV3)
    (runnerObservation : GitHubRefAbsenceObservation) (boundaryRevision : String) :
    Except Raised IndependentVerificationBoundaryV2 := do
  raiseIf (runnerObservation.runnerId ≠ runnerIdentity.runnerId)
    ⟨.permissionError, "ROLLBACK_VERIFY_RUNNER_ID_MISMATCH"⟩
  raiseIf (runnerObservation.runnerIdentityDigest ≠ runnerIdentity.identityDigest)
    ⟨.permissionError, "ROLLBACK_VERIFY_RUNNER_DIGEST_MISMATCH"⟩
  raiseIf (runnerObservation.runnerBoundaryDigest ≠ runnerBoundary.boundaryDigest)
    ⟨.permissionError, "ROLLBACK_VERIFY_RUNNER_BOUNDARY_MISMATCH"⟩
  raiseIf (verifier.environment ≠ stagingEnvironment)
    ⟨.permissionError, "ROLLBACK_VERIFY_ENVIRONMENT_MISMATCH"⟩
  let _ ← requireText (.str boundaryRevision) "boundary_revision"
  contract.createFrom sha256
    [("verifier_id", .str verifier.verifierId),
      ("verifier_identity_digest", .str verifier.identityDigest),
      ("verifier_provider_instance_id", .str verifier.providerInstanceId),
      ("verifier_credential_class", .str verifier.credentialClass),
      ("runner_id", .str runnerIdentity.runnerId),
      ("runner_identity_digest", .str runnerIdentity.identityDigest),
      ("runner_boundary_digest", .str runnerBoundary.boundaryDigest),
      ("runner_provider_instance_id", .str runnerIdentity.providerInstanceId),
      ("runner_credential_class", .str runnerBoundary.credentialClass),
      ("execution_id", .str runnerBoundary.executionId),
      ("execution_epoch", runnerBoundary.executionEpoch),
      ("target_digest", .str runnerObservation.targetDigest),
      ("runner_observation_digest", .str runnerObservation.observationDigest),
      ("environment", .str stagingEnvironment),
      ("provider_mutation_allowed", .bool false),
      ("independence_class", .str VoodooOne.independenceClass),
      ("boundary_revision", .str boundaryRevision)]

structure Shows (boundary : IndependentVerificationBoundaryV2) (verifier : VerifierIdentity)
    (runnerIdentity : RunnerIdentity) (runnerBoundary : RunnerBoundaryV3)
    (runnerObservation : GitHubRefAbsenceObservation) : Prop where
  verifierId : boundary.verifierId = verifier.verifierId
  verifierDigest : boundary.verifierIdentityDigest = verifier.identityDigest
  verifierInstance : boundary.verifierProviderInstanceId = verifier.providerInstanceId
  runnerId : boundary.runnerId = runnerIdentity.runnerId
  executionId : boundary.executionId = runnerBoundary.executionId
  executionEpoch : .int boundary.executionEpoch = runnerBoundary.executionEpoch
  targetDigest : boundary.targetDigest = runnerObservation.targetDigest
  observationDigest : boundary.runnerObservationDigest = runnerObservation.observationDigest
  observationRunner : runnerObservation.runnerId = runnerIdentity.runnerId
  observationBoundary : runnerObservation.runnerBoundaryDigest = runnerBoundary.boundaryDigest

theorem of_create {sha256 : String → String} {verifier : VerifierIdentity}
    {runnerIdentity : RunnerIdentity} {runnerBoundary : RunnerBoundaryV3}
    {runnerObservation : GitHubRefAbsenceObservation} {boundaryRevision : String}
    {boundary : IndependentVerificationBoundaryV2}
    (created : create sha256 verifier runnerIdentity runnerBoundary runnerObservation
      boundaryRevision = .ok boundary) : contract.Built sha256 boundary ∧
        Shows boundary verifier runnerIdentity runnerBoundary runnerObservation := by
  simp only [create, bind_eq_ok, raiseIf_eq_ok, not_not] at created
  obtain ⟨_, observationRunner, _, _, _, observationBoundary, _, _, _, _, built⟩ := created
  have same := Contract.claims_of_createFrom lawful rfl built
  simp only [contract, claims, List.cons.injEq, Prod.mk.injEq, Json.str.injEq, true_and] at same
  obtain ⟨verifier, verifierIdentity, verifierInstance, -, runner, -, -, -, -, execution, epoch,
    target, observation, -⟩ := same
  exact ⟨⟨_, built⟩, verifier, verifierIdentity, verifierInstance, runner, execution, epoch, target,
    observation, observationRunner, observationBoundary⟩

end IndependentVerificationBoundaryV2

structure VerifierCredentialDecisionV2 where
  (decisionId verifierId verifierIdentityDigest verificationBoundaryDigest : String)
  (runnerObservationDigest targetDigest executionId : String)
  executionEpoch : Int
  (credentialClass provider audience environment accessMode : String)
  providerMutationAllowed : Json
  (validFrom expiresAt policyDigest decisionRevision decisionDigest : String)
deriving DecidableEq

namespace VerifierCredentialDecisionV2

/-- `_claims`, apart from version and type. -/
def claims (decision : VerifierCredentialDecisionV2) : List (String × Json) :=
  [("decision_id", .str decision.decisionId),
    ("verifier_id", .str decision.verifierId),
    ("verifier_identity_digest", .str decision.verifierIdentityDigest),
    ("verification_boundary_digest", .str decision.verificationBoundaryDigest),
    ("runner_observation_digest", .str decision.runnerObservationDigest),
    ("target_digest", .str decision.targetDigest),
    ("execution_id", .str decision.executionId),
    ("execution_epoch", .int decision.executionEpoch),
    ("credential_class", .str decision.credentialClass),
    ("provider", .str decision.provider),
    ("audience", .str decision.audience),
    ("environment", .str decision.environment),
    ("access_mode", .str decision.accessMode),
    ("provider_mutation_allowed", decision.providerMutationAllowed),
    ("valid_from", .str decision.validFrom),
    ("expires_at", .str decision.expiresAt),
    ("policy_digest", .str decision.policyDigest),
    ("decision_revision", .str decision.decisionRevision)]

def ofAttributes (self : Attributes) : VerifierCredentialDecisionV2 where
  decisionId := self.text "decision_id"
  verifierId := self.text "verifier_id"
  verifierIdentityDigest := self.text "verifier_identity_digest"
  verificationBoundaryDigest := self.text "verification_boundary_digest"
  runnerObservationDigest := self.text "runner_observation_digest"
  targetDigest := self.text "target_digest"
  executionId := self.text "execution_id"
  executionEpoch := self.int "execution_epoch"
  credentialClass := self.text "credential_class"
  provider := self.text "provider"
  audience := self.text "audience"
  environment := self.text "environment"
  accessMode := self.text "access_mode"
  providerMutationAllowed := self "provider_mutation_allowed"
  validFrom := self.text "valid_from"
  expiresAt := self.text "expires_at"
  policyDigest := self.text "policy_digest"
  decisionRevision := self.text "decision_revision"
  decisionDigest := self.text "decision_digest"

def contract : Contract VerifierCredentialDecisionV2 where
  schemaVersion := 2
  contractType := "verifier-credential-decision/v2"
  typeField := "decision_type"
  digestField := "decision_digest"
  mismatch := "decision_digest does not match verifier-credential-decision/v2"
  attributes :=
    ["decision_id", "verifier_id", "verifier_identity_digest", "verification_boundary_digest",
      "runner_observation_digest", "target_digest", "execution_id", "execution_epoch",
      "credential_class", "provider", "audience", "environment", "access_mode",
      "provider_mutation_allowed", "valid_from", "expires_at", "policy_digest",
      "decision_revision"].map
      fun field => (field, if field = "execution_epoch" then .integer else
        if field = "provider_mutation_allowed" then .any else .text)
  checks :=
    requireDigests ["decision_id", "verifier_id", "verifier_identity_digest",
      "verification_boundary_digest", "runner_observation_digest", "target_digest", "policy_digest",
      "decision_digest"] ++
    requireTexts ["execution_id", "credential_class", "provider", "audience", "environment",
      "access_mode", "decision_revision"] ++
    [.integer "execution_epoch" 1 "execution_epoch must be >= 1", .timestamp "valid_from",
      .timestamp "expires_at", uncheckedAttribute "provider_mutation_allowed"]
  ofAttributes := ofAttributes
  claims := claims
  digest := decisionDigest
  withDigest decision digest := { decision with decisionDigest := digest }
  check _ decision := do
    let start ← requireTimestamp (.str decision.validFrom) "valid_from"
    let stop ← requireTimestamp (.str decision.expiresAt) "expires_at"
    raiseIf (stop ≤ start) (valueError "verifier credential expiry must be after valid_from")
    raiseIf (decision.accessMode ≠ readOnlyAccessMode)
      (valueError "rollback verifier credential must be READ_ONLY")
    raiseIf (decision.providerMutationAllowed ≠ .bool false)
      (valueError "rollback verifier credential cannot mutate providers")

theorem lawful : contract.Lawful where
  ofAttributes_eq self decision digest same := by
    simp only [contract, claims, List.cons_append, List.nil_append, List.forall_mem_cons] at same
    simp [contract, ofAttributes, Attributes.text, Attributes.int, Json.text?, same]

def identity (sha256 : String → String) (verifierId boundaryDigest policyDigest validFrom
    expiresAt : String) : String :=
  digestOf sha256 (.object [("decision_type", .str "verifier-credential-decision-id/v2"),
    ("verifier_id", .str verifierId),
    ("verification_boundary_digest", .str boundaryDigest),
    ("policy_digest", .str policyDigest),
    ("valid_from", .str validFrom),
    ("expires_at", .str expiresAt)])

def create (sha256 : String → String) (verifier : VerifierIdentity)
    (boundary : IndependentVerificationBoundaryV2) (policy : VerifierCredentialPolicy)
    (validFrom expiresAt decisionRevision : String) :
    Except Raised VerifierCredentialDecisionV2 := do
  let start ← requireTimestamp (.str validFrom) "valid_from"
  let stop ← requireTimestamp (.str expiresAt) "expires_at"
  raiseIf (stop ≤ start ∨
      (stop.milliseconds : Int) - start.milliseconds > policy.maxTtlSeconds * 1000)
    ⟨.permissionError, "ROLLBACK_VERIFIER_CREDENTIAL_TTL_EXCEEDS_POLICY"⟩
  raiseIf (verifier.verifierId ≠ boundary.verifierId)
    ⟨.permissionError, "ROLLBACK_VERIFIER_IDENTITY_MISMATCH"⟩
  raiseIf (verifier.identityDigest ≠ boundary.verifierIdentityDigest)
    ⟨.permissionError, "ROLLBACK_VERIFIER_IDENTITY_DIGEST_MISMATCH"⟩
  raiseIf (verifier.credentialClass ≠ policy.credentialClass)
    ⟨.permissionError, "ROLLBACK_VERIFIER_CREDENTIAL_CLASS_MISMATCH"⟩
  raiseIf (verifier.provider ≠ policy.provider)
    ⟨.permissionError, "ROLLBACK_VERIFIER_PROVIDER_MISMATCH"⟩
  raiseIf (verifier.environment ∉ policy.enabledEnvironments)
    ⟨.permissionError, "ROLLBACK_VERIFIER_ENVIRONMENT_NOT_ALLOWED"⟩
  raiseIf (policy.accessMode ≠ readOnlyAccessMode ∨ policy.providerMutationAllowed ≠ .bool false)
    ⟨.permissionError, "ROLLBACK_VERIFIER_POLICY_NOT_READ_ONLY"⟩
  let _ ← requireText (.str decisionRevision) "decision_revision"
  contract.createFrom sha256
    [("decision_id", .str (identity sha256 verifier.verifierId boundary.boundaryDigest
        policy.policyDigest validFrom expiresAt)),
      ("verifier_id", .str verifier.verifierId),
      ("verifier_identity_digest", .str verifier.identityDigest),
      ("verification_boundary_digest", .str boundary.boundaryDigest),
      ("runner_observation_digest", .str boundary.runnerObservationDigest),
      ("target_digest", .str boundary.targetDigest),
      ("execution_id", .str boundary.executionId),
      ("execution_epoch", .int boundary.executionEpoch),
      ("credential_class", .str policy.credentialClass),
      ("provider", .str policy.provider),
      ("audience", .str policy.audience),
      ("environment", .str boundary.environment),
      ("access_mode", .str readOnlyAccessMode),
      ("provider_mutation_allowed", .bool false),
      ("valid_from", .str validFrom),
      ("expires_at", .str expiresAt),
      ("policy_digest", .str policy.policyDigest),
      ("decision_revision", .str decisionRevision)]

structure Shows (decision : VerifierCredentialDecisionV2) (verifier : VerifierIdentity)
    (boundary : IndependentVerificationBoundaryV2) (validFrom expiresAt : String) : Prop where
  ofBoundary : decision.verifierIdentityDigest = boundary.verifierIdentityDigest
  identityDigest : decision.verifierIdentityDigest = verifier.identityDigest
  boundaryDigest : decision.verificationBoundaryDigest = boundary.boundaryDigest
  targetDigest : decision.targetDigest = boundary.targetDigest
  executionId : decision.executionId = boundary.executionId
  executionEpoch : decision.executionEpoch = boundary.executionEpoch
  start : decision.validFrom = validFrom
  stop : decision.expiresAt = expiresAt
  interval : ∃ start stop : Instant, validFrom = start.isoformat ∧ expiresAt = stop.isoformat

theorem of_create {sha256 : String → String} {verifier : VerifierIdentity}
    {boundary : IndependentVerificationBoundaryV2} {policy : VerifierCredentialPolicy}
    {validFrom expiresAt decisionRevision : String} {decision : VerifierCredentialDecisionV2}
    (created : create sha256 verifier boundary policy validFrom expiresAt decisionRevision =
      .ok decision) : contract.Built sha256 decision ∧
        Shows decision verifier boundary validFrom expiresAt := by
  simp only [create, bind_eq_ok, raiseIf_eq_ok, not_not, requireTimestamp_eq_ok,
    Json.str.injEq] at created
  obtain ⟨start, ⟨startAt, -⟩, stop, ⟨stopAt, -⟩, _, _, _, _, _, identity, _, _, _, _, _, _, _, _,
    _, _, built⟩ := created
  have same := Contract.claims_of_createFrom lawful rfl built
  simp only [contract, claims, List.cons.injEq, Prod.mk.injEq, Json.str.injEq, Json.int.injEq,
    true_and] at same
  obtain ⟨-, -, verifierIdentity, bound, -, target, execution, epoch, -, -, -, -, -, -, begins,
    ends, -⟩ := same
  exact ⟨⟨_, built⟩, verifierIdentity.trans identity, verifierIdentity, bound, target, execution,
    epoch, begins, ends, start, stop, startAt, stopAt⟩

end VerifierCredentialDecisionV2

/-- `VerifierGitHubRefAbsenceObservation`.  The verifier found no reference. -/
structure VerifierGitHubRefAbsenceObservation where
  (repository ref targetDigest provider providerInstanceId verifierId : String)
  (verifierIdentityDigest verificationBoundaryDigest verifierCredentialDecisionDigest : String)
  (runnerObservationDigest executionId : String)
  executionEpoch : Int
  sourceIdentity : String
  httpStatus : Json
  (presence observedAt observationRevision observationDigest : String)
deriving DecidableEq

namespace VerifierGitHubRefAbsenceObservation

/-- `_claims`, apart from version and type. -/
def claims (observation : VerifierGitHubRefAbsenceObservation) : List (String × Json) :=
  [("repository", .str observation.repository),
    ("ref", .str observation.ref),
    ("target_digest", .str observation.targetDigest),
    ("provider", .str observation.provider),
    ("provider_instance_id", .str observation.providerInstanceId),
    ("verifier_id", .str observation.verifierId),
    ("verifier_identity_digest", .str observation.verifierIdentityDigest),
    ("verification_boundary_digest", .str observation.verificationBoundaryDigest),
    ("verifier_credential_decision_digest", .str observation.verifierCredentialDecisionDigest),
    ("runner_observation_digest", .str observation.runnerObservationDigest),
    ("execution_id", .str observation.executionId),
    ("execution_epoch", .int observation.executionEpoch),
    ("source_identity", .str observation.sourceIdentity),
    ("http_status", observation.httpStatus),
    ("presence", .str observation.presence),
    ("observed_at", .str observation.observedAt),
    ("observation_revision", .str observation.observationRevision)]

def ofAttributes (self : Attributes) : VerifierGitHubRefAbsenceObservation where
  repository := self.text "repository"
  ref := self.text "ref"
  targetDigest := self.text "target_digest"
  provider := self.text "provider"
  providerInstanceId := self.text "provider_instance_id"
  verifierId := self.text "verifier_id"
  verifierIdentityDigest := self.text "verifier_identity_digest"
  verificationBoundaryDigest := self.text "verification_boundary_digest"
  verifierCredentialDecisionDigest := self.text "verifier_credential_decision_digest"
  runnerObservationDigest := self.text "runner_observation_digest"
  executionId := self.text "execution_id"
  executionEpoch := self.int "execution_epoch"
  sourceIdentity := self.text "source_identity"
  httpStatus := self "http_status"
  presence := self.text "presence"
  observedAt := self.text "observed_at"
  observationRevision := self.text "observation_revision"
  observationDigest := self.text "observation_digest"

def contract : Contract VerifierGitHubRefAbsenceObservation where
  contractType := "verifier-github-ref-absence-observation/v1"
  typeField := "observation_type"
  digestField := "observation_digest"
  mismatch := "observation_digest does not match verifier absence observation"
  attributes :=
    ["repository", "ref", "target_digest", "provider", "provider_instance_id", "verifier_id",
      "verifier_identity_digest", "verification_boundary_digest",
      "verifier_credential_decision_digest", "runner_observation_digest", "execution_id",
      "execution_epoch", "source_identity", "http_status", "presence", "observed_at",
      "observation_revision"].map
      fun field => (field, if field = "execution_epoch" then .integer else
        if field = "http_status" then .any else .text)
  checks :=
    requireDigests ["target_digest", "verifier_id", "verifier_identity_digest",
      "verification_boundary_digest", "verifier_credential_decision_digest",
      "runner_observation_digest", "observation_digest"] ++
    requireTexts ["repository", "ref", "provider", "provider_instance_id", "execution_id",
      "source_identity", "presence", "observation_revision"] ++
    [.timestamp "observed_at", .integer "execution_epoch" 1 "execution_epoch must be >= 1",
      .equals "provider" githubProvider "verifier absence observation provider must be github",
      .satisfies "http_status"
        (requireNotFound "verifier absence observation requires provider 404 / ABSENT"),
      .equals "presence" absent "verifier absence observation requires provider 404 / ABSENT"]
  ofAttributes := ofAttributes
  claims := claims
  digest := observationDigest
  withDigest observation digest := { observation with observationDigest := digest }
  check _ _ := .ok ()

theorem lawful : contract.Lawful where
  ofAttributes_eq self observation digest same := by
    simp only [contract, claims, List.cons_append, List.nil_append, List.forall_mem_cons] at same
    simp [contract, ofAttributes, Attributes.text, Attributes.int, Json.text?, same]

/-- `create`.  The interval of the decision is not looked at. -/
def create (sha256 : String → String) (runnerObservation : GitHubRefAbsenceObservation)
    (verifier : VerifierIdentity) (boundary : IndependentVerificationBoundaryV2)
    (decision : VerifierCredentialDecisionV2)
    (sourceIdentity observedAt observationRevision : String) :
    Except Raised VerifierGitHubRefAbsenceObservation := do
  raiseIf (boundary.runnerObservationDigest ≠ runnerObservation.observationDigest)
    ⟨.permissionError, "ROLLBACK_VERIFIER_RUNNER_OBSERVATION_MISMATCH"⟩
  raiseIf (decision.verificationBoundaryDigest ≠ boundary.boundaryDigest)
    ⟨.permissionError, "ROLLBACK_VERIFIER_DECISION_BOUNDARY_MISMATCH"⟩
  raiseIf (decision.verifierIdentityDigest ≠ verifier.identityDigest)
    ⟨.permissionError, "ROLLBACK_VERIFIER_DECISION_IDENTITY_MISMATCH"⟩
  let runnerTime ← requireTimestamp (.str runnerObservation.observedAt)
    "runner_observation.observed_at"
  let verifierTime ← requireTimestamp (.str observedAt) "observed_at"
  raiseIf (verifierTime < runnerTime)
    ⟨.permissionError, "ROLLBACK_VERIFIER_OBSERVATION_PRECEDES_RUNNER"⟩
  requireTextFields [("source_identity", sourceIdentity),
    ("observation_revision", observationRevision)]
  contract.createFrom sha256
    [("repository", .str runnerObservation.repository),
      ("ref", .str runnerObservation.ref),
      ("target_digest", .str runnerObservation.targetDigest),
      ("provider", .str githubProvider),
      ("provider_instance_id", .str verifier.providerInstanceId),
      ("verifier_id", .str verifier.verifierId),
      ("verifier_identity_digest", .str verifier.identityDigest),
      ("verification_boundary_digest", .str boundary.boundaryDigest),
      ("verifier_credential_decision_digest", .str decision.decisionDigest),
      ("runner_observation_digest", .str runnerObservation.observationDigest),
      ("execution_id", .str boundary.executionId),
      ("execution_epoch", .int boundary.executionEpoch),
      ("source_identity", .str sourceIdentity),
      ("http_status", .int httpNotFound),
      ("presence", .str absent),
      ("observed_at", .str observedAt),
      ("observation_revision", .str observationRevision)]

structure Shows (observation : VerifierGitHubRefAbsenceObservation)
    (runnerObservation : GitHubRefAbsenceObservation) (verifier : VerifierIdentity)
    (boundary : IndependentVerificationBoundaryV2) (decision : VerifierCredentialDecisionV2)
    (observedAt : String) : Prop where
  targetDigest : observation.targetDigest = runnerObservation.targetDigest
  providerInstance : observation.providerInstanceId = verifier.providerInstanceId
  verifierId : observation.verifierId = verifier.verifierId
  identityDigest : observation.verifierIdentityDigest = verifier.identityDigest
  boundaryDigest : observation.verificationBoundaryDigest = boundary.boundaryDigest
  observationDigest : observation.runnerObservationDigest = runnerObservation.observationDigest
  executionId : observation.executionId = boundary.executionId
  executionEpoch : observation.executionEpoch = boundary.executionEpoch
  observed : observation.observedAt = observedAt
  decisionBoundary : decision.verificationBoundaryDigest = boundary.boundaryDigest
  decisionIdentity : decision.verifierIdentityDigest = verifier.identityDigest
  order : ∃ runnerTime verifierTime : Instant,
    runnerObservation.observedAt = runnerTime.isoformat ∧ observedAt = verifierTime.isoformat ∧
      runnerTime ≤ verifierTime

theorem of_create {sha256 : String → String} {runnerObservation : GitHubRefAbsenceObservation}
    {verifier : VerifierIdentity} {boundary : IndependentVerificationBoundaryV2}
    {decision : VerifierCredentialDecisionV2}
    {sourceIdentity observedAt observationRevision : String}
    {observation : VerifierGitHubRefAbsenceObservation}
    (created : create sha256 runnerObservation verifier boundary decision sourceIdentity observedAt
      observationRevision = .ok observation) : contract.Built sha256 observation ∧
        Shows observation runnerObservation verifier boundary decision observedAt := by
  simp only [create, bind_eq_ok, raiseIf_eq_ok, not_not, requireTimestamp_eq_ok, Json.str.injEq,
    not_lt] at created
  obtain ⟨_, _, _, decisionBoundary, _, decisionIdentity, runnerTime, ⟨runnerAt, -⟩, verifierTime,
    ⟨verifierAt, -⟩, _, order, _, _, built⟩ := created
  have same := Contract.claims_of_createFrom lawful rfl built
  simp only [contract, claims, List.cons.injEq, Prod.mk.injEq, Json.str.injEq, Json.int.injEq,
    true_and] at same
  obtain ⟨-, -, target, -, providerInstance, verifier, identity, boundary, -, runnerObservation,
    execution, epoch, -, -, -, observed, -⟩ := same
  exact ⟨⟨_, built⟩, target, providerInstance, verifier, identity, boundary, runnerObservation,
    execution, epoch, observed, decisionBoundary, decisionIdentity, runnerTime, verifierTime,
    runnerAt, verifierAt, order⟩

end VerifierGitHubRefAbsenceObservation

end VoodooOne
