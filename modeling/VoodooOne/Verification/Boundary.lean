import Mathlib.Data.List.Infix
import VoodooOne.Credential.Boundaries
import VoodooOne.Foundation.Clock

/-!
# Boundary between runner and verifier

A boundary binds one verifier to one observation of a runner.  Its constructor refuses a verifier
that shares the identity, the provider instance or the credential class of the runner.
-/

namespace VoodooOne

/-- `_REPOSITORY_PATTERN`: owner and name, of letters, digits, `_`, `.` and `-`. -/
def matchesRepository (text : String) : Bool :=
  match text.toList.splitOn '/' with
  | [owner, name] => [owner, name].all fun part => !part.isEmpty && part.all fun character =>
      character.isAlphanum || ['_', '.', '-'].contains character
  | _ => false

/-- What comes after the class of a full reference. -/
def refSuffix (ref : String) : Option (List Char) :=
  if "refs/heads/".toList <+: ref.toList then some (ref.toList.drop 11)
  else if "refs/tags/".toList <+: ref.toList then some (ref.toList.drop 10)
  else none

def validSuffix (suffix : List Char) : Bool :=
  !suffix.isEmpty && suffix.head? != some '/' && suffix.getLast? != some '/' &&
    [['/', '/'], ['.', '.'], ['@', '\x7b'], ['\\']].all (fun part => !decide (part <:+: suffix)) &&
    suffix.all fun character => !isSpace character && 32 ≤ character.toNat &&
      !(['~', '^', ':', '?', '*', '['].contains character)

/-- `_GIT_OBJECT_ID_PATTERN`. -/
def isGitObjectId (text : String) : Bool :=
  (text.length == 40 || text.length == 64) &&
    text.toList.all fun character => "0123456789abcdef".toList.contains character

/-- The pattern of `_require_repository`, on a text field. -/
def requireRepositoryForm : Json → Except Raised Unit
  | .str text => raiseIf (matchesRepository text = false)
      (valueError "repository must use owner/name form")
  | _ => .error (valueError "repository is invalid")

/-- The form that `_require_ref` asks for, on a text field. -/
def requireRefForm : Json → Except Raised Unit
  | .str text => do
      let suffix ← orRaise (valueError "ref must be a fully-qualified heads or tags ref")
        (refSuffix text)
      raiseIf (validSuffix suffix = false) (valueError "ref is invalid")
  | _ => .error (valueError "ref is invalid")

/-- The pattern of `_require_git_object_id`, on a text field. -/
def requireObjectIdForm (field : String) : Json → Except Raised Unit
  | .str text => raiseIf (isGitObjectId text = false)
      (valueError (field ++ " must be a lowercase Git object id"))
  | _ => .error (valueError (field ++ " is invalid"))

/-- The type check of an epoch. -/
def requireInteger (message : String) : Json → Except Raised Unit
  | .int _ => .ok ()
  | _ => .error (valueError message)

theorem requireRepositoryForm_str {text : String} :
    requireRepositoryForm (.str text) = .ok () ↔ matchesRepository text = true := by
  rw [requireRepositoryForm, raiseIf_eq_ok, Bool.not_eq_false]

theorem requireRefForm_str {text : String} : requireRefForm (.str text) = .ok () ↔
    ∃ suffix, refSuffix text = some suffix ∧ validSuffix suffix = true := by
  simp only [requireRefForm, bind_eq_ok, orRaise_eq_ok, raiseIf_eq_ok, Bool.not_eq_false]

theorem requireObjectIdForm_str {field text : String} :
    requireObjectIdForm field (.str text) = .ok () ↔ isGitObjectId text = true := by
  rw [requireObjectIdForm, raiseIf_eq_ok, Bool.not_eq_false]

/-- `GitHubRefObservation`.  What the runner read. -/
structure GitHubRefObservation where
  (repository ref commitSha targetDigest provider providerInstanceId runnerId : String)
  (runnerBoundaryDigest credentialDecisionDigest runtimeActivationDigest leaseId : String)
  (leaseDigest executionId : String)
  executionEpoch : Int
  (executionCapsuleDigest capabilityDefinitionIdentity sourceIdentity : String)
  (clockSourceIdentity clockWitnessDigest observedAt observationRevision : String)
  observationDigest : String
deriving DecidableEq

namespace GitHubRefObservation

/-- `_claims_without_digest`, apart from version and type. -/
def claims (observation : GitHubRefObservation) : List (String × Json) :=
  [("repository", .str observation.repository),
    ("ref", .str observation.ref),
    ("commit_sha", .str observation.commitSha),
    ("target_digest", .str observation.targetDigest),
    ("provider", .str observation.provider),
    ("provider_instance_id", .str observation.providerInstanceId),
    ("runner_id", .str observation.runnerId),
    ("runner_boundary_digest", .str observation.runnerBoundaryDigest),
    ("credential_decision_digest", .str observation.credentialDecisionDigest),
    ("runtime_activation_digest", .str observation.runtimeActivationDigest),
    ("lease_id", .str observation.leaseId),
    ("lease_digest", .str observation.leaseDigest),
    ("execution_id", .str observation.executionId),
    ("execution_epoch", .int observation.executionEpoch),
    ("execution_capsule_digest", .str observation.executionCapsuleDigest),
    ("capability_definition_identity", .str observation.capabilityDefinitionIdentity),
    ("source_identity", .str observation.sourceIdentity),
    ("clock_source_identity", .str observation.clockSourceIdentity),
    ("clock_witness_digest", .str observation.clockWitnessDigest),
    ("observed_at", .str observation.observedAt),
    ("observation_revision", .str observation.observationRevision)]

def ofAttributes (self : Attributes) : GitHubRefObservation where
  repository := self.text "repository"
  ref := self.text "ref"
  commitSha := self.text "commit_sha"
  targetDigest := self.text "target_digest"
  provider := self.text "provider"
  providerInstanceId := self.text "provider_instance_id"
  runnerId := self.text "runner_id"
  runnerBoundaryDigest := self.text "runner_boundary_digest"
  credentialDecisionDigest := self.text "credential_decision_digest"
  runtimeActivationDigest := self.text "runtime_activation_digest"
  leaseId := self.text "lease_id"
  leaseDigest := self.text "lease_digest"
  executionId := self.text "execution_id"
  executionEpoch := self.int "execution_epoch"
  executionCapsuleDigest := self.text "execution_capsule_digest"
  capabilityDefinitionIdentity := self.text "capability_definition_identity"
  sourceIdentity := self.text "source_identity"
  clockSourceIdentity := self.text "clock_source_identity"
  clockWitnessDigest := self.text "clock_witness_digest"
  observedAt := self.text "observed_at"
  observationRevision := self.text "observation_revision"
  observationDigest := self.text "observation_digest"

def contract : Contract GitHubRefObservation where
  contractType := "github-ref-observation/v1"
  typeField := "observation_type"
  digestField := "observation_digest"
  mismatch := "observation_digest does not match GitHubRefObservation"
  attributes :=
    ["repository", "ref", "commit_sha", "target_digest", "provider", "provider_instance_id",
      "runner_id", "runner_boundary_digest", "credential_decision_digest",
      "runtime_activation_digest", "lease_id", "lease_digest", "execution_id", "execution_epoch",
      "execution_capsule_digest", "capability_definition_identity", "source_identity",
      "clock_source_identity", "clock_witness_digest", "observed_at", "observation_revision"].map
      fun field => (field, if field = "execution_epoch" then .integer else .text)
  checks :=
    [.text "repository", .satisfies "repository" requireRepositoryForm, .text "ref",
      .satisfies "ref" requireRefForm, .text "commit_sha",
      .satisfies "commit_sha" (requireObjectIdForm "commit_sha")] ++
    requireDigests ["target_digest", "runner_id", "runner_boundary_digest",
      "credential_decision_digest", "runtime_activation_digest", "lease_id", "lease_digest",
      "execution_capsule_digest", "capability_definition_identity", "clock_witness_digest",
      "observation_digest"] ++
    requireTexts ["provider", "provider_instance_id", "execution_id", "source_identity",
      "clock_source_identity", "observation_revision"] ++
    [.timestamp "observed_at",
      .satisfies "execution_epoch" (requireInteger "execution_epoch must be an integer"),
      .integer "execution_epoch" 1 "execution_epoch must be >= 1"]
  ofAttributes := ofAttributes
  claims := claims
  digest := observationDigest
  withDigest observation digest := { observation with observationDigest := digest }
  check _ _ := .ok ()

theorem lawful : contract.Lawful where
  ofAttributes_eq self observation digest same := by
    simp only [contract, claims, List.cons_append, List.nil_append, List.forall_mem_cons] at same
    simp [contract, ofAttributes, Attributes.text, Attributes.int, Json.text?, same]

end GitHubRefObservation

/-- `VerifierGitHubRefObservation`.  What the verifier read. -/
structure VerifierGitHubRefObservation where
  (repository ref commitSha targetDigest provider providerInstanceId verifierId : String)
  (verifierIdentityDigest verificationBoundaryDigest verifierCredentialDecisionId : String)
  (verifierCredentialDecisionDigest runnerObservationDigest executionId : String)
  executionEpoch : Int
  (sourceIdentity accessClockSourceIdentity accessClockWitnessDigest : String)
  (credentialCheckedAt clockSourceIdentity clockWitnessDigest observedAt : String)
  (observationRevision observationDigest : String)
deriving DecidableEq

namespace VerifierGitHubRefObservation

/-- `_claims_without_digest`, apart from version and type. -/
def claims (observation : VerifierGitHubRefObservation) : List (String × Json) :=
  [("repository", .str observation.repository),
    ("ref", .str observation.ref),
    ("commit_sha", .str observation.commitSha),
    ("target_digest", .str observation.targetDigest),
    ("provider", .str observation.provider),
    ("provider_instance_id", .str observation.providerInstanceId),
    ("verifier_id", .str observation.verifierId),
    ("verifier_identity_digest", .str observation.verifierIdentityDigest),
    ("verification_boundary_digest", .str observation.verificationBoundaryDigest),
    ("verifier_credential_decision_id", .str observation.verifierCredentialDecisionId),
    ("verifier_credential_decision_digest", .str observation.verifierCredentialDecisionDigest),
    ("runner_observation_digest", .str observation.runnerObservationDigest),
    ("execution_id", .str observation.executionId),
    ("execution_epoch", .int observation.executionEpoch),
    ("source_identity", .str observation.sourceIdentity),
    ("access_clock_source_identity", .str observation.accessClockSourceIdentity),
    ("access_clock_witness_digest", .str observation.accessClockWitnessDigest),
    ("credential_checked_at", .str observation.credentialCheckedAt),
    ("clock_source_identity", .str observation.clockSourceIdentity),
    ("clock_witness_digest", .str observation.clockWitnessDigest),
    ("observed_at", .str observation.observedAt),
    ("observation_revision", .str observation.observationRevision)]

def ofAttributes (self : Attributes) : VerifierGitHubRefObservation where
  repository := self.text "repository"
  ref := self.text "ref"
  commitSha := self.text "commit_sha"
  targetDigest := self.text "target_digest"
  provider := self.text "provider"
  providerInstanceId := self.text "provider_instance_id"
  verifierId := self.text "verifier_id"
  verifierIdentityDigest := self.text "verifier_identity_digest"
  verificationBoundaryDigest := self.text "verification_boundary_digest"
  verifierCredentialDecisionId := self.text "verifier_credential_decision_id"
  verifierCredentialDecisionDigest := self.text "verifier_credential_decision_digest"
  runnerObservationDigest := self.text "runner_observation_digest"
  executionId := self.text "execution_id"
  executionEpoch := self.int "execution_epoch"
  sourceIdentity := self.text "source_identity"
  accessClockSourceIdentity := self.text "access_clock_source_identity"
  accessClockWitnessDigest := self.text "access_clock_witness_digest"
  credentialCheckedAt := self.text "credential_checked_at"
  clockSourceIdentity := self.text "clock_source_identity"
  clockWitnessDigest := self.text "clock_witness_digest"
  observedAt := self.text "observed_at"
  observationRevision := self.text "observation_revision"
  observationDigest := self.text "observation_digest"

def contract : Contract VerifierGitHubRefObservation where
  contractType := "verifier-github-ref-observation/v1"
  typeField := "observation_type"
  digestField := "observation_digest"
  mismatch := "observation_digest does not match VerifierGitHubRefObservation"
  attributes :=
    ["repository", "ref", "commit_sha", "target_digest", "provider", "provider_instance_id",
      "verifier_id", "verifier_identity_digest", "verification_boundary_digest",
      "verifier_credential_decision_id", "verifier_credential_decision_digest",
      "runner_observation_digest", "execution_id", "execution_epoch", "source_identity",
      "access_clock_source_identity", "access_clock_witness_digest", "credential_checked_at",
      "clock_source_identity", "clock_witness_digest", "observed_at", "observation_revision"].map
      fun field => (field, if field = "execution_epoch" then .integer else .text)
  checks :=
    [.text "repository", .text "ref", .text "commit_sha",
      .satisfies "commit_sha" (requireObjectIdForm "commit_sha")] ++
    requireDigests ["target_digest", "verifier_id", "verifier_identity_digest",
      "verification_boundary_digest", "verifier_credential_decision_id",
      "verifier_credential_decision_digest", "runner_observation_digest",
      "access_clock_witness_digest", "clock_witness_digest", "observation_digest"] ++
    requireTexts ["provider", "provider_instance_id", "execution_id", "source_identity",
      "access_clock_source_identity", "clock_source_identity", "observation_revision"] ++
    [.timestamp "credential_checked_at", .timestamp "observed_at",
      .integer "execution_epoch" 1 "execution_epoch must be >= 1"]
  ofAttributes := ofAttributes
  claims := claims
  digest := observationDigest
  withDigest observation digest := { observation with observationDigest := digest }
  check _ _ := .ok ()

theorem lawful : contract.Lawful where
  ofAttributes_eq self observation digest same := by
    simp only [contract, claims, List.cons_append, List.nil_append, List.forall_mem_cons] at same
    simp [contract, ofAttributes, Attributes.text, Attributes.int, Json.text?, same]

end VerifierGitHubRefObservation

def independenceClass : String := "SEPARATE_IDENTITY_INSTANCE_CREDENTIAL"

/-- The check `is not True` or `is not False`. -/
def requireTruth (expected : Bool) (message : String) (value : Json) : Except Raised Unit :=
  raiseIf (value ≠ .bool expected) (valueError message)

structure IndependentVerificationBoundary where
  (verifierId verifierIdentityDigest verifierClass verifierProvider : String)
  (verifierProviderInstanceId verifierCredentialClass runnerId runnerIdentityDigest : String)
  (runnerBoundaryDigest runnerProviderInstanceId runnerCredentialClass executionId : String)
  executionEpoch : Int
  (targetDigest runnerObservationDigest environment effectCeiling : String)
  networkEgressDefault : String
  providerMutationAllowed : Json
  (independenceClass boundaryRevision boundaryDigest : String)
deriving DecidableEq

namespace IndependentVerificationBoundary

/-- `_claims_without_digest`, apart from version and type. -/
def claims (boundary : IndependentVerificationBoundary) : List (String × Json) :=
  [("verifier_id", .str boundary.verifierId),
    ("verifier_identity_digest", .str boundary.verifierIdentityDigest),
    ("verifier_class", .str boundary.verifierClass),
    ("verifier_provider", .str boundary.verifierProvider),
    ("verifier_provider_instance_id", .str boundary.verifierProviderInstanceId),
    ("verifier_credential_class", .str boundary.verifierCredentialClass),
    ("runner_id", .str boundary.runnerId),
    ("runner_identity_digest", .str boundary.runnerIdentityDigest),
    ("runner_boundary_digest", .str boundary.runnerBoundaryDigest),
    ("runner_provider_instance_id", .str boundary.runnerProviderInstanceId),
    ("runner_credential_class", .str boundary.runnerCredentialClass),
    ("execution_id", .str boundary.executionId),
    ("execution_epoch", .int boundary.executionEpoch),
    ("target_digest", .str boundary.targetDigest),
    ("runner_observation_digest", .str boundary.runnerObservationDigest),
    ("environment", .str boundary.environment),
    ("effect_ceiling", .str boundary.effectCeiling),
    ("network_egress_default", .str boundary.networkEgressDefault),
    ("provider_mutation_allowed", boundary.providerMutationAllowed),
    ("independence_class", .str boundary.independenceClass),
    ("boundary_revision", .str boundary.boundaryRevision)]

def ofAttributes (self : Attributes) : IndependentVerificationBoundary where
  verifierId := self.text "verifier_id"
  verifierIdentityDigest := self.text "verifier_identity_digest"
  verifierClass := self.text "verifier_class"
  verifierProvider := self.text "verifier_provider"
  verifierProviderInstanceId := self.text "verifier_provider_instance_id"
  verifierCredentialClass := self.text "verifier_credential_class"
  runnerId := self.text "runner_id"
  runnerIdentityDigest := self.text "runner_identity_digest"
  runnerBoundaryDigest := self.text "runner_boundary_digest"
  runnerProviderInstanceId := self.text "runner_provider_instance_id"
  runnerCredentialClass := self.text "runner_credential_class"
  executionId := self.text "execution_id"
  executionEpoch := self.int "execution_epoch"
  targetDigest := self.text "target_digest"
  runnerObservationDigest := self.text "runner_observation_digest"
  environment := self.text "environment"
  effectCeiling := self.text "effect_ceiling"
  networkEgressDefault := self.text "network_egress_default"
  providerMutationAllowed := self "provider_mutation_allowed"
  independenceClass := self.text "independence_class"
  boundaryRevision := self.text "boundary_revision"
  boundaryDigest := self.text "boundary_digest"

def contract : Contract IndependentVerificationBoundary where
  contractType := "independent-verification-boundary/v1"
  typeField := "boundary_type"
  digestField := "boundary_digest"
  mismatch := "boundary_digest does not match IndependentVerificationBoundary"
  attributes :=
    ["verifier_id", "verifier_identity_digest", "verifier_class", "verifier_provider",
      "verifier_provider_instance_id", "verifier_credential_class", "runner_id",
      "runner_identity_digest", "runner_boundary_digest", "runner_provider_instance_id",
      "runner_credential_class", "execution_id", "execution_epoch", "target_digest",
      "runner_observation_digest", "environment", "effect_ceiling", "network_egress_default",
      "provider_mutation_allowed", "independence_class", "boundary_revision"].map
      fun field => (field, if field = "execution_epoch" then .integer
        else if field = "provider_mutation_allowed" then .any else .text)
  checks :=
    requireDigests ["verifier_id", "verifier_identity_digest", "runner_id",
      "runner_identity_digest", "runner_boundary_digest", "target_digest",
      "runner_observation_digest", "boundary_digest"] ++
    requireTexts ["verifier_class", "verifier_provider", "verifier_provider_instance_id",
      "verifier_credential_class", "runner_provider_instance_id", "runner_credential_class",
      "execution_id", "boundary_revision"] ++
    [.oneOf "environment" validEnvironments "environment is invalid",
      .satisfies "execution_epoch" (requireInteger "execution_epoch must be an integer"),
      .integer "execution_epoch" 1 "execution_epoch must be >= 1",
      .equals "effect_ceiling" readOnlyEffectClass
        "Phase-E verifier effect ceiling must be READ_ONLY",
      .equals "network_egress_default" denyAllNetworkDefault
        "Phase-E verifier network default must be DENY_ALL",
      .satisfies "provider_mutation_allowed"
        (requireTruth false "Phase-E verifier cannot mutate providers"),
      .equals "independence_class" VoodooOne.independenceClass "independence_class is unsupported"]
  ofAttributes := ofAttributes
  claims := claims
  digest := boundaryDigest
  withDigest boundary digest := { boundary with boundaryDigest := digest }
  check _ boundary := do
    raiseIf (boundary.verifierId = boundary.runnerId)
      (valueError "VerifierIdentity must differ from RunnerIdentity")
    raiseIf (boundary.verifierProviderInstanceId = boundary.runnerProviderInstanceId)
      (valueError "Verifier provider instance must differ from Runner provider instance")
    raiseIf (boundary.verifierCredentialClass = boundary.runnerCredentialClass)
      (valueError "Verifier credential class must differ from Runner credential class")

theorem lawful : contract.Lawful where
  ofAttributes_eq self boundary digest same := by
    simp only [contract, claims, List.cons_append, List.nil_append, List.forall_mem_cons] at same
    simp [contract, ofAttributes, Attributes.text, Attributes.int, Json.text?, same]

end IndependentVerificationBoundary

end VoodooOne
