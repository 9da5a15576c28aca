import VoodooOne.ReadTerminal.Runtime

/-!
# Setting up a verifier

A terminal describes its verifier by a profile.  The verifier gets an identity for an environment, a
boundary that keeps it apart from the runner that was observed, and a credential decision under the
policy of the terminal.
-/

namespace VoodooOne

open Calendar

structure VerifierRuntimeProfile where
  (verifierClass provider providerInstanceId credentialClass rootfsDigest : String)
  (resourceLimitProfileDigest networkPolicyDigest identityRevision boundaryRevision : String)
  decisionRevision : String
  credentialTtlSeconds : Int
deriving DecidableEq

/-- `VerifierIdentity.create`, from the attributes of `draft`. -/
def VerifierIdentity.create (sha256 : String → String) (draft : VerifierIdentity) :
    Except Raised VerifierIdentity :=
  contract.create sha256 { draft with verifierId := draft.logicalIdentity sha256 }

namespace VerifierRuntimeProfile

variable (profile : VerifierRuntimeProfile)

def postInit : Except Raised Unit := do
  requireTextFields
    [("verifier_class", profile.verifierClass), ("provider", profile.provider),
      ("provider_instance_id", profile.providerInstanceId),
      ("credential_class", profile.credentialClass),
      ("identity_revision", profile.identityRevision),
      ("boundary_revision", profile.boundaryRevision),
      ("decision_revision", profile.decisionRevision)]
  requireDigestFields
    [("rootfs_digest", profile.rootfsDigest),
      ("resource_limit_profile_digest", profile.resourceLimitProfileDigest),
      ("network_policy_digest", profile.networkPolicyDigest)]
  raiseIf (¬(1 ≤ profile.credentialTtlSeconds ∧ profile.credentialTtlSeconds ≤ 3600))
    (valueError "credential_ttl_seconds must be between 1 and 3600")

def identityDraft (environment : String) : VerifierIdentity where
  verifierId := ""
  verifierClass := profile.verifierClass
  provider := profile.provider
  providerInstanceId := profile.providerInstanceId
  environment
  credentialClass := profile.credentialClass
  rootfsDigest := profile.rootfsDigest
  resourceLimitProfileDigest := profile.resourceLimitProfileDigest
  networkPolicyDigest := profile.networkPolicyDigest
  identityRevision := profile.identityRevision
  identityDigest := ""

def identity (sha256 : String → String) (environment : String) : Except Raised VerifierIdentity :=
  VerifierIdentity.create sha256 (profile.identityDraft environment)

end VerifierRuntimeProfile

namespace IndependentVerificationBoundary

/-- `IndependentVerificationBoundaryDenied`. -/
def denied (reason : String) : Raised := ⟨.independentVerificationBoundaryDenied, reason⟩

def assertRunnerEvidenceBound (runnerIdentity : RunnerIdentity) (runnerBoundary : RunnerBoundary)
    (runnerObservation : GitHubRefObservation) : Except Raised Unit := do
  raiseIf (runnerBoundary.runnerId ≠ runnerIdentity.runnerId)
    (denied "RUNNER_IDENTITY_BINDING_MISMATCH")
  raiseIf (runnerBoundary.runnerIdentityDigest ≠ runnerIdentity.identityDigest)
    (denied "RUNNER_IDENTITY_BINDING_MISMATCH")
  raiseIf (runnerBoundary.environment ≠ runnerIdentity.environment)
    (denied "RUNNER_ENVIRONMENT_BINDING_MISMATCH")
  raiseIf (runnerObservation.runnerId ≠ runnerIdentity.runnerId)
    (denied "RUNNER_OBSERVATION_IDENTITY_MISMATCH")
  raiseIf (runnerObservation.runnerBoundaryDigest ≠ runnerBoundary.boundaryDigest)
    (denied "RUNNER_OBSERVATION_BOUNDARY_MISMATCH")
  raiseIf (runnerObservation.providerInstanceId ≠ runnerIdentity.providerInstanceId)
    (denied "RUNNER_OBSERVATION_INSTANCE_MISMATCH")
  raiseIf (runnerObservation.executionId ≠ runnerBoundary.executionId)
    (denied "RUNNER_OBSERVATION_EXECUTION_MISMATCH")
  raiseIf (runnerObservation.executionEpoch ≠ runnerBoundary.executionEpoch)
    (denied "RUNNER_OBSERVATION_EPOCH_MISMATCH")
  raiseIf (runnerObservation.executionCapsuleDigest ≠ runnerBoundary.executionCapsuleDigest)
    (denied "RUNNER_OBSERVATION_CAPSULE_MISMATCH")
  raiseIf (runnerObservation.capabilityDefinitionIdentity ≠
      runnerBoundary.capabilityDefinitionIdentity)
    (denied "RUNNER_OBSERVATION_CAPABILITY_MISMATCH")

/-- What a boundary says, without its digest. -/
def draft (verifier : VerifierIdentity) (runnerIdentity : RunnerIdentity)
    (runnerBoundary : RunnerBoundary) (runnerObservation : GitHubRefObservation)
    (boundaryRevision : String) : IndependentVerificationBoundary where
  verifierId := verifier.verifierId
  verifierIdentityDigest := verifier.identityDigest
  verifierClass := verifier.verifierClass
  verifierProvider := verifier.provider
  verifierProviderInstanceId := verifier.providerInstanceId
  verifierCredentialClass := verifier.credentialClass
  runnerId := runnerIdentity.runnerId
  runnerIdentityDigest := runnerIdentity.identityDigest
  runnerBoundaryDigest := runnerBoundary.boundaryDigest
  runnerProviderInstanceId := runnerIdentity.providerInstanceId
  runnerCredentialClass := runnerBoundary.credentialClass
  executionId := runnerObservation.executionId
  executionEpoch := runnerObservation.executionEpoch
  targetDigest := runnerObservation.targetDigest
  runnerObservationDigest := runnerObservation.observationDigest
  environment := runnerBoundary.environment
  effectCeiling := readOnlyEffectClass
  networkEgressDefault := denyAllNetworkDefault
  providerMutationAllowed := .bool false
  independenceClass := VoodooOne.independenceClass
  boundaryRevision
  boundaryDigest := ""

def create (sha256 : String → String) (verifier : VerifierIdentity)
    (runnerIdentity : RunnerIdentity) (runnerBoundary : RunnerBoundary)
    (runnerObservation : GitHubRefObservation) (boundaryRevision : String) :
    Except Raised IndependentVerificationBoundary := do
  requireTextFields [("boundary_revision", boundaryRevision)]
  assertRunnerEvidenceBound runnerIdentity runnerBoundary runnerObservation
  raiseIf (verifier.environment ≠ runnerBoundary.environment)
    (denied "VERIFIER_ENVIRONMENT_MISMATCH")
  raiseIf (verifier.verifierId = runnerIdentity.runnerId)
    (denied "VERIFIER_IDENTITY_NOT_INDEPENDENT")
  raiseIf (verifier.identityDigest = runnerIdentity.identityDigest)
    (denied "VERIFIER_IDENTITY_NOT_INDEPENDENT")
  raiseIf (verifier.providerInstanceId = runnerIdentity.providerInstanceId)
    (denied "VERIFIER_PROVIDER_INSTANCE_NOT_INDEPENDENT")
  raiseIf (verifier.credentialClass = runnerBoundary.credentialClass)
    (denied "VERIFIER_CREDENTIAL_CLASS_NOT_INDEPENDENT")
  contract.create sha256
    (draft verifier runnerIdentity runnerBoundary runnerObservation boundaryRevision)

/-- The verifier is not the runner and shares neither its instance nor its credential. -/
structure Apart (verifier : VerifierIdentity) (runnerIdentity : RunnerIdentity)
    (runnerCredentialClass : String) : Prop where
  id : verifier.verifierId ≠ runnerIdentity.runnerId
  digest : verifier.identityDigest ≠ runnerIdentity.identityDigest
  providerInstance : verifier.providerInstanceId ≠ runnerIdentity.providerInstanceId
  credential : verifier.credentialClass ≠ runnerCredentialClass

end IndependentVerificationBoundary

structure VerifierCredentialDecision where
  (decisionId verifierId verifierIdentityDigest verificationBoundaryDigest : String)
  (runnerObservationDigest targetDigest executionId : String)
  executionEpoch : Int
  (credentialClass provider audience environment : String)
  (accessMode providerMutationAllowed : Json)
  (validFrom expiresAt policyDigest policyRevision decisionRevision decisionDigest : String)
deriving DecidableEq

namespace VerifierCredentialDecision

def identity (sha256 : String → String) (verifierId boundaryDigest policyDigest validFrom
    expiresAt : String) : String :=
  digestOf sha256 (.object [("decision_type", .str "verifier-credential-decision-id/v1"),
    ("verifier_id", .str verifierId),
    ("verification_boundary_digest", .str boundaryDigest),
    ("policy_digest", .str policyDigest),
    ("valid_from", .str validFrom),
    ("expires_at", .str expiresAt)])

def logicalIdentity (sha256 : String → String) (decision : VerifierCredentialDecision) : String :=
  identity sha256 decision.verifierId decision.verificationBoundaryDigest decision.policyDigest
    decision.validFrom decision.expiresAt

/-- `_claims_without_digest`, apart from version and type. -/
def claims (decision : VerifierCredentialDecision) : List (String × Json) :=
  [("decision_id", .str decision.decisionId),
    ("verifier_id", .str decision.verifierId),
    ("verifier_identity_digest", .str decision.verifierIdentityDigest),
    ("verification_boundary_digest", .str decision.verificationBoundaryDigest),
    ("runner_observation_digest", .str decision.runnerObservationDigest),
    ("target_digest", .str decision.targetDigest),
    ("execution_id", .str decision.executionId),
    ("execution_epoch", .int decision.executionEpoch),
    ("credential_class", .str decision.credentialClass),
    ("provider", .str decision.provider),
    ("audience", .str decision.audience),
    ("environment", .str decision.environment),
    ("access_mode", decision.accessMode),
    ("provider_mutation_allowed", decision.providerMutationAllowed),
    ("valid_from", .str decision.validFrom),
    ("expires_at", .str decision.expiresAt),
    ("policy_digest", .str decision.policyDigest),
    ("policy_revision", .str decision.policyRevision),
    ("decision_revision", .str decision.decisionRevision)]

def ofAttributes (self : Attributes) : VerifierCredentialDecision where
  decisionId := self.text "decision_id"
  verifierId := self.text "verifier_id"
  verifierIdentityDigest := self.text "verifier_identity_digest"
  verificationBoundaryDigest := self.text "verification_boundary_digest"
  runnerObservationDigest := self.text "runner_observation_digest"
  targetDigest := self.text "target_digest"
  executionId := self.text "execution_id"
  executionEpoch := self.int "execution_epoch"
  credentialClass := self.text "credential_class"
  provider := self.text "provider"
  audience := self.text "audience"
  environment := self.text "environment"
  accessMode := self "access_mode"
  providerMutationAllowed := self "provider_mutation_allowed"
  validFrom := self.text "valid_from"
  expiresAt := self.text "expires_at"
  policyDigest := self.text "policy_digest"
  policyRevision := self.text "policy_revision"
  decisionRevision := self.text "decision_revision"
  decisionDigest := self.text "decision_digest"

def contract : Contract VerifierCredentialDecision where
  contractType := "verifier-credential-decision/v1"
  typeField := "decision_type"
  digestField := "decision_digest"
  mismatch := "decision_digest does not match verifier credential decision"
  attributes :=
    ["decision_id", "verifier_id", "verifier_identity_digest", "verification_boundary_digest",
      "runner_observation_digest", "target_digest", "execution_id", "execution_epoch",
      "credential_class", "provider", "audience", "environment", "access_mode",
      "provider_mutation_allowed", "valid_from", "expires_at", "policy_digest",
      "policy_revision", "decision_revision"].map
      fun field => (field, if field = "execution_epoch" then .integer else
        if field ∈ ["access_mode", "provider_mutation_allowed"] then .any else .text)
  checks :=
    requireDigests ["decision_id", "verifier_id", "verifier_identity_digest",
      "verification_boundary_digest", "runner_observation_digest", "target_digest",
      "policy_digest", "decision_digest"] ++
    requireTexts ["execution_id", "credential_class", "provider", "audience", "policy_revision",
      "decision_revision"] ++
    [.oneOf "environment" validEnvironments "environment is invalid",
      .integer "execution_epoch" 1 "execution_epoch must be >= 1",
      .timestamp "valid_from", .timestamp "expires_at",
      uncheckedAttribute "access_mode", uncheckedAttribute "provider_mutation_allowed"]
  ofAttributes := ofAttributes
  claims := claims
  digest := decisionDigest
  withDigest decision digest := { decision with decisionDigest := digest }
  check sha256 decision := do
    let validFrom ← requireTimestamp (.str decision.validFrom) "valid_from"
    let expiresAt ← requireTimestamp (.str decision.expiresAt) "expires_at"
    raiseIf (expiresAt ≤ validFrom)
      (valueError "verifier credential expiry must be after valid_from")
    raiseIf (decision.accessMode ≠ .str readOnlyAccessMode)
      (valueError "Phase-E verifier decision must be READ_ONLY")
    raiseIf (decision.providerMutationAllowed ≠ .bool false)
      (valueError "Phase-E verifier decision cannot allow provider mutation")
    raiseIf (decision.decisionId ≠ decision.logicalIdentity sha256)
      (valueError "decision_id does not match verifier credential decision identity")

theorem lawful : contract.Lawful where
  ofAttributes_eq self decision digest same := by
    simp only [contract, claims, List.cons_append, List.nil_append, List.forall_mem_cons] at same
    simp [contract, ofAttributes, Attributes.text, Attributes.int, Json.text?, same]

/-- `VerifierCredentialDenied`. -/
def denied (reason : String) : Raised := ⟨.verifierCredentialDenied, reason⟩

/-- What a decision says, without its digest. -/
def draft (sha256 : String → String) (verifier : VerifierIdentity)
    (boundary : IndependentVerificationBoundary) (policy : VerifierCredentialPolicy)
    (validFrom expiresAt decisionRevision : String) : VerifierCredentialDecision where
  decisionId := identity sha256 verifier.verifierId boundary.boundaryDigest policy.policyDigest
    validFrom expiresAt
  verifierId := verifier.verifierId
  verifierIdentityDigest := verifier.identityDigest
  verificationBoundaryDigest := boundary.boundaryDigest
  runnerObservationDigest := boundary.runnerObservationDigest
  targetDigest := boundary.targetDigest
  executionId := boundary.executionId
  executionEpoch := boundary.executionEpoch
  credentialClass := policy.credentialClass
  provider := policy.provider
  audience := policy.audience
  environment := boundary.environment
  accessMode := .str readOnlyAccessMode
  providerMutationAllowed := .bool false
  validFrom
  expiresAt
  policyDigest := policy.policyDigest
  policyRevision := policy.policyRevision
  decisionRevision
  decisionDigest := ""

def create (sha256 : String → String) (verifier : VerifierIdentity)
    (boundary : IndependentVerificationBoundary) (policy : VerifierCredentialPolicy)
    (validFrom expiresAt decisionRevision : String) :
    Except Raised VerifierCredentialDecision := do
  requireTextFields [("decision_revision", decisionRevision)]
  let start ← requireTimestamp (.str validFrom) "valid_from"
  let stop ← requireTimestamp (.str expiresAt) "expires_at"
  raiseIf (stop ≤ start) (denied "VERIFIER_CREDENTIAL_INVALID_TTL")
  raiseIf ((stop.milliseconds : Int) - start.milliseconds > policy.maxTtlSeconds * 1000)
    (denied "VERIFIER_CREDENTIAL_TTL_EXCEEDS_POLICY")
  raiseIf (verifier.verifierId ≠ boundary.verifierId) (denied "VERIFIER_IDENTITY_BINDING_MISMATCH")
  raiseIf (verifier.identityDigest ≠ boundary.verifierIdentityDigest)
    (denied "VERIFIER_IDENTITY_DIGEST_MISMATCH")
  raiseIf (verifier.credentialClass ≠ boundary.verifierCredentialClass)
    (denied "VERIFIER_BOUNDARY_CREDENTIAL_CLASS_MISMATCH")
  raiseIf (verifier.credentialClass ≠ policy.credentialClass)
    (denied "VERIFIER_CREDENTIAL_CLASS_NOT_ALLOWED")
  raiseIf (verifier.environment ≠ boundary.environment ∨
      verifier.environment ∉ policy.enabledEnvironments)
    (denied "VERIFIER_ENVIRONMENT_NOT_ALLOWED")
  raiseIf (verifier.provider ≠ policy.provider) (denied "VERIFIER_PROVIDER_NOT_ALLOWED")
  raiseIf (boundary.providerMutationAllowed ≠ .bool false)
    (denied "VERIFIER_BOUNDARY_MUTATION_ALLOWED")
  raiseIf (boundary.verifierCredentialClass = boundary.runnerCredentialClass)
    (denied "VERIFIER_CREDENTIAL_NOT_INDEPENDENT")
  contract.create sha256 (draft sha256 verifier boundary policy validFrom expiresAt
    decisionRevision)

end VerifierCredentialDecision

end VoodooOne
