import VoodooOne.Write.Boundary

/-!
# Isolated runtimes of readers

A provider starts a runtime and reports what it started.  The runtime gets an identity, a boundary
and a credential decision that fit the report, and is activated under the lease while that is
current.  What the provider, the broker and the fence answer comes from outside.
-/

namespace VoodooOne

def readOnlyMountMode : String := "READ_ONLY"

structure IsolatedRuntimeBootstrap where
  (bootstrapId provider providerInstanceId runnerClass environment rootfsDigest : String)
  (resourceLimitProfileDigest networkPolicyDigest workspaceMountMode : String)
  networkEgressDefault : String
  (inheritedCredentials providerMutationAllowed : Json)
  (bootstrapRevision bootstrapDigest : String)
deriving DecidableEq

namespace IsolatedRuntimeBootstrap

/-- `_claims_without_digest`, apart from version and type. -/
def claims (bootstrap : IsolatedRuntimeBootstrap) : List (String × Json) :=
  [("bootstrap_id", .str bootstrap.bootstrapId),
    ("provider", .str bootstrap.provider),
    ("provider_instance_id", .str bootstrap.providerInstanceId),
    ("runner_class", .str bootstrap.runnerClass),
    ("environment", .str bootstrap.environment),
    ("rootfs_digest", .str bootstrap.rootfsDigest),
    ("resource_limit_profile_digest", .str bootstrap.resourceLimitProfileDigest),
    ("network_policy_digest", .str bootstrap.networkPolicyDigest),
    ("workspace_mount_mode", .str bootstrap.workspaceMountMode),
    ("network_egress_default", .str bootstrap.networkEgressDefault),
    ("inherited_credentials", bootstrap.inheritedCredentials),
    ("provider_mutation_allowed", bootstrap.providerMutationAllowed),
    ("bootstrap_revision", .str bootstrap.bootstrapRevision)]

def logicalIdentity (sha256 : String → String) (bootstrap : IsolatedRuntimeBootstrap) : String :=
  digestOf sha256 (.object [("identity_type", .str "isolated-runtime-bootstrap-id/v1"),
    ("provider", .str bootstrap.provider),
    ("provider_instance_id", .str bootstrap.providerInstanceId),
    ("runner_class", .str bootstrap.runnerClass),
    ("environment", .str bootstrap.environment)])

def ofAttributes (self : Attributes) : IsolatedRuntimeBootstrap where
  bootstrapId := self.text "bootstrap_id"
  provider := self.text "provider"
  providerInstanceId := self.text "provider_instance_id"
  runnerClass := self.text "runner_class"
  environment := self.text "environment"
  rootfsDigest := self.text "rootfs_digest"
  resourceLimitProfileDigest := self.text "resource_limit_profile_digest"
  networkPolicyDigest := self.text "network_policy_digest"
  workspaceMountMode := self.text "workspace_mount_mode"
  networkEgressDefault := self.text "network_egress_default"
  inheritedCredentials := self "inherited_credentials"
  providerMutationAllowed := self "provider_mutation_allowed"
  bootstrapRevision := self.text "bootstrap_revision"
  bootstrapDigest := self.text "bootstrap_digest"

def contract : Contract IsolatedRuntimeBootstrap where
  contractType := "isolated-runtime-bootstrap/v1"
  typeField := "bootstrap_type"
  digestField := "bootstrap_digest"
  mismatch := "bootstrap_digest does not match isolated runtime bootstrap"
  attributes :=
    ["bootstrap_id", "provider", "provider_instance_id", "runner_class", "environment",
      "rootfs_digest", "resource_limit_profile_digest", "network_policy_digest",
      "workspace_mount_mode", "network_egress_default", "inherited_credentials",
      "provider_mutation_allowed", "bootstrap_revision"].map
      fun field => (field, if field ∈ ["inherited_credentials", "provider_mutation_allowed"]
        then .any else .text)
  checks :=
    requireDigests ["bootstrap_id", "rootfs_digest", "resource_limit_profile_digest",
      "network_policy_digest", "bootstrap_digest"] ++
    requireTexts ["provider", "provider_instance_id", "runner_class", "environment",
      "bootstrap_revision"] ++
    [.equals "workspace_mount_mode" readOnlyMountMode "D3 workspace mount must be READ_ONLY",
      .equals "network_egress_default" denyAllNetworkDefault
        "D3 network egress default must be DENY_ALL",
      .satisfies "inherited_credentials"
        (requireTruth false "D3 runtime cannot inherit credentials"),
      .satisfies "provider_mutation_allowed"
        (requireTruth false "D3 runtime cannot allow provider mutation")]
  ofAttributes := ofAttributes
  claims := claims
  digest := bootstrapDigest
  withDigest bootstrap digest := { bootstrap with bootstrapDigest := digest }
  check sha256 bootstrap := raiseIf (bootstrap.bootstrapId ≠ bootstrap.logicalIdentity sha256)
    (valueError "bootstrap_id does not match isolated runtime identity")

theorem lawful : contract.Lawful where
  ofAttributes_eq self bootstrap digest same := by
    simp only [contract, claims, List.cons_append, List.nil_append, List.forall_mem_cons] at same
    simp [contract, ofAttributes, Attributes.text, Json.text?, same]

end IsolatedRuntimeBootstrap

structure ReadOnlyRuntimeActivation where
  (provider providerInstanceId runnerId runnerIdentityDigest runnerBoundaryDigest : String)
  (credentialDecisionId credentialDecisionDigest leaseId leaseDigest executionId : String)
  executionEpoch : Int
  (executionCapsuleDigest capabilityDefinitionIdentity accessMode : String)
  (workspaceMountMode networkEgressDefault : String)
  providerMutationAllowed : Json
  (activationRevision activationDigest : String)
deriving DecidableEq

namespace ReadOnlyRuntimeActivation

/-- `_claims_without_digest`, apart from version and type. -/
def claims (activation : ReadOnlyRuntimeActivation) : List (String × Json) :=
  [("provider", .str activation.provider),
    ("provider_instance_id", .str activation.providerInstanceId),
    ("runner_id", .str activation.runnerId),
    ("runner_identity_digest", .str activation.runnerIdentityDigest),
    ("runner_boundary_digest", .str activation.runnerBoundaryDigest),
    ("credential_decision_id", .str activation.credentialDecisionId),
    ("credential_decision_digest", .str activation.credentialDecisionDigest),
    ("lease_id", .str activation.leaseId),
    ("lease_digest", .str activation.leaseDigest),
    ("execution_id", .str activation.executionId),
    ("execution_epoch", .int activation.executionEpoch),
    ("execution_capsule_digest", .str activation.executionCapsuleDigest),
    ("capability_definition_identity", .str activation.capabilityDefinitionIdentity),
    ("access_mode", .str activation.accessMode),
    ("workspace_mount_mode", .str activation.workspaceMountMode),
    ("network_egress_default", .str activation.networkEgressDefault),
    ("provider_mutation_allowed", activation.providerMutationAllowed),
    ("activation_revision", .str activation.activationRevision)]

def ofAttributes (self : Attributes) : ReadOnlyRuntimeActivation where
  provider := self.text "provider"
  providerInstanceId := self.text "provider_instance_id"
  runnerId := self.text "runner_id"
  runnerIdentityDigest := self.text "runner_identity_digest"
  runnerBoundaryDigest := self.text "runner_boundary_digest"
  credentialDecisionId := self.text "credential_decision_id"
  credentialDecisionDigest := self.text "credential_decision_digest"
  leaseId := self.text "lease_id"
  leaseDigest := self.text "lease_digest"
  executionId := self.text "execution_id"
  executionEpoch := self.int "execution_epoch"
  executionCapsuleDigest := self.text "execution_capsule_digest"
  capabilityDefinitionIdentity := self.text "capability_definition_identity"
  accessMode := self.text "access_mode"
  workspaceMountMode := self.text "workspace_mount_mode"
  networkEgressDefault := self.text "network_egress_default"
  providerMutationAllowed := self "provider_mutation_allowed"
  activationRevision := self.text "activation_revision"
  activationDigest := self.text "activation_digest"

def contract : Contract ReadOnlyRuntimeActivation where
  contractType := "read-only-runtime-activation/v1"
  typeField := "activation_type"
  digestField := "activation_digest"
  mismatch := "activation_digest does not match read-only runtime activation"
  attributes :=
    ["provider", "provider_instance_id", "runner_id", "runner_identity_digest",
      "runner_boundary_digest", "credential_decision_id", "credential_decision_digest",
      "lease_id", "lease_digest", "execution_id", "execution_epoch", "execution_capsule_digest",
      "capability_definition_identity", "access_mode", "workspace_mount_mode",
      "network_egress_default", "provider_mutation_allowed", "activation_revision"].map
      fun field => (field, if field = "execution_epoch" then .integer else
        if field = "provider_mutation_allowed" then .any else .text)
  checks :=
    requireDigests ["runner_id", "runner_identity_digest", "runner_boundary_digest",
      "credential_decision_id", "credential_decision_digest", "lease_id", "lease_digest",
      "execution_capsule_digest", "capability_definition_identity", "activation_digest"] ++
    requireTexts ["provider", "provider_instance_id", "execution_id", "activation_revision"] ++
    [.satisfies "execution_epoch" requireIntegerEpoch,
      .integer "execution_epoch" 1 "execution_epoch must be >= 1",
      .equals "access_mode" readOnlyAccessMode "D3 runtime activation must be READ_ONLY",
      .equals "workspace_mount_mode" readOnlyMountMode "D3 workspace mount must remain READ_ONLY",
      .equals "network_egress_default" denyAllNetworkDefault
        "D3 network default must remain DENY_ALL",
      .satisfies "provider_mutation_allowed"
        (requireTruth false "D3 runtime activation cannot allow provider mutation")]
  ofAttributes := ofAttributes
  claims := claims
  digest := activationDigest
  withDigest activation digest := { activation with activationDigest := digest }
  check _ _ := .ok ()

theorem lawful : contract.Lawful where
  ofAttributes_eq self activation digest same := by
    simp only [contract, claims, List.cons_append, List.nil_append, List.forall_mem_cons] at same
    simp [contract, ofAttributes, Attributes.text, Attributes.int, Json.text?, same]

end ReadOnlyRuntimeActivation

structure PreparedIsolatedRuntime where
  bootstrap : IsolatedRuntimeBootstrap
  identity : RunnerIdentity
  boundary : RunnerBoundary
  decision : CredentialAccessDecision
  lease : ExecutionLease

namespace PreparedIsolatedRuntime

/-- `_assert_runtime_binding`, on the objects of the runtime. -/
def assertRuntimeBinding (runtime : PreparedIsolatedRuntime) : Except Raised Unit := do
  let { bootstrap, identity, boundary, decision, lease } := runtime
  raiseIf (bootstrap.provider ≠ identity.provider)
    (permissionDenied "RUNTIME_PROVIDER_IDENTITY_MISMATCH")
  raiseIf (bootstrap.providerInstanceId ≠ identity.providerInstanceId)
    (permissionDenied "RUNTIME_PROVIDER_INSTANCE_MISMATCH")
  raiseIf (bootstrap.runnerClass ≠ identity.runnerClass)
    (permissionDenied "RUNTIME_RUNNER_CLASS_MISMATCH")
  raiseIf (bootstrap.environment ≠ identity.environment)
    (permissionDenied "RUNTIME_ENVIRONMENT_MISMATCH")
  raiseIf (bootstrap.rootfsDigest ≠ identity.rootfsDigest)
    (permissionDenied "RUNTIME_ROOTFS_MISMATCH")
  raiseIf (bootstrap.resourceLimitProfileDigest ≠ identity.resourceLimitProfileDigest)
    (permissionDenied "RUNTIME_RESOURCE_PROFILE_MISMATCH")
  raiseIf (bootstrap.networkPolicyDigest ≠ identity.networkPolicyDigest)
    (permissionDenied "RUNTIME_NETWORK_POLICY_MISMATCH")
  raiseIf (boundary.runnerId ≠ identity.runnerId)
    (permissionDenied "RUNTIME_BOUNDARY_RUNNER_MISMATCH")
  raiseIf (boundary.runnerIdentityDigest ≠ identity.identityDigest)
    (permissionDenied "RUNTIME_BOUNDARY_IDENTITY_MISMATCH")
  raiseIf (boundary.leaseId ≠ lease.leaseId ∨ boundary.leaseDigest ≠ lease.leaseDigest)
    (permissionDenied "RUNTIME_BOUNDARY_LEASE_MISMATCH")
  raiseIf (boundary.executionEpoch ≠ lease.executionEpoch)
    (permissionDenied "RUNTIME_BOUNDARY_EPOCH_MISMATCH")
  raiseIf (decision.runnerBoundaryDigest ≠ boundary.boundaryDigest)
    (permissionDenied "RUNTIME_CREDENTIAL_BOUNDARY_MISMATCH")
  raiseIf (decision.runnerId ≠ identity.runnerId)
    (permissionDenied "RUNTIME_CREDENTIAL_RUNNER_MISMATCH")
  raiseIf (decision.leaseId ≠ lease.leaseId ∨ decision.leaseDigest ≠ lease.leaseDigest)
    (permissionDenied "RUNTIME_CREDENTIAL_LEASE_MISMATCH")
  raiseIf (decision.executionEpoch ≠ .int lease.executionEpoch)
    (permissionDenied "RUNTIME_CREDENTIAL_EPOCH_MISMATCH")
  raiseIf (decision.executionCapsuleDigest ≠ boundary.executionCapsuleDigest)
    (permissionDenied "RUNTIME_CREDENTIAL_CAPSULE_MISMATCH")
  raiseIf (decision.capabilityDefinitionIdentity ≠ boundary.capabilityDefinitionIdentity)
    (permissionDenied "RUNTIME_CREDENTIAL_CAPABILITY_MISMATCH")
  raiseIf (decision.accessMode ≠ .str readOnlyAccessMode)
    (permissionDenied "RUNTIME_CREDENTIAL_NOT_READ_ONLY")
  raiseIf (decision.providerMutationAllowed ≠ .bool false)
    (permissionDenied "RUNTIME_CREDENTIAL_MUTATION_ALLOWED")

end PreparedIsolatedRuntime

namespace ReadOnlyRuntimeActivation

/-- What an activation of the runtime says, without its digest. -/
def draft (runtime : PreparedIsolatedRuntime) (activationRevision : String) :
    ReadOnlyRuntimeActivation where
  provider := runtime.bootstrap.provider
  providerInstanceId := runtime.bootstrap.providerInstanceId
  runnerId := runtime.identity.runnerId
  runnerIdentityDigest := runtime.identity.identityDigest
  runnerBoundaryDigest := runtime.boundary.boundaryDigest
  credentialDecisionId := runtime.decision.decisionId
  credentialDecisionDigest := runtime.decision.decisionDigest
  leaseId := runtime.lease.leaseId
  leaseDigest := runtime.lease.leaseDigest
  executionId := runtime.lease.executionId
  executionEpoch := runtime.lease.executionEpoch
  executionCapsuleDigest := runtime.boundary.executionCapsuleDigest
  capabilityDefinitionIdentity := runtime.boundary.capabilityDefinitionIdentity
  accessMode := readOnlyAccessMode
  workspaceMountMode := readOnlyMountMode
  networkEgressDefault := denyAllNetworkDefault
  providerMutationAllowed := .bool false
  activationRevision
  activationDigest := ""

def create (sha256 : String → String) (runtime : PreparedIsolatedRuntime)
    (activationRevision : String) : Except Raised ReadOnlyRuntimeActivation := do
  runtime.assertRuntimeBinding
  contract.create sha256 (draft runtime activationRevision)

end ReadOnlyRuntimeActivation

/-- What the provider, the broker and the fence answer while a runtime is prepared and activated. -/
structure RuntimeAnswers (sha256 : String → String) where
  /-- `provider.bootstrap`. -/
  bootstrap : Except Raised IsolatedRuntimeBootstrap
  /-- `credential_broker.authorize`. -/
  authorization : Except Raised CredentialAccessDecision
  /-- `current_fence.assert_current`. -/
  current : Except Raised Unit
  /-- `provider.activate_read_only`. -/
  activation : Except Raised ReadOnlyRuntimeActivation
  /-- A reported runtime is a built object. -/
  bootstrapBuilt : ∀ reported, bootstrap = .ok reported →
    IsolatedRuntimeBootstrap.contract.Built sha256 reported
  /-- So is a decision. -/
  authorizationBuilt : ∀ decision, authorization = .ok decision →
    CredentialAccessDecision.contract.Built sha256 decision

structure IsolatedRunnerAdapter where
  (identityRevision boundaryRevision activationRevision : String)
  revisions : ∀ named ∈ [("identity_revision", identityRevision),
    ("boundary_revision", boundaryRevision), ("activation_revision", activationRevision)],
    ValidText named.2

namespace IsolatedRunnerAdapter

def assertBootstrapBound (bootstrap : IsolatedRuntimeBootstrap) (lease : ExecutionLease)
    (capsule : ExecutionCapsule) : Except Raised Unit := do
  raiseIf (bootstrap.runnerClass ≠ lease.runnerClass)
    (permissionDenied "RUNTIME_RUNNER_CLASS_MISMATCH")
  raiseIf (bootstrap.environment ≠ lease.environment)
    (permissionDenied "RUNTIME_ENVIRONMENT_MISMATCH")
  raiseIf (bootstrap.rootfsDigest ≠ capsule.rootfsDigest)
    (permissionDenied "RUNTIME_ROOTFS_MISMATCH")
  raiseIf (bootstrap.resourceLimitProfileDigest ≠ capsule.resourceLimitProfileDigest)
    (permissionDenied "RUNTIME_RESOURCE_PROFILE_MISMATCH")
  raiseIf (bootstrap.networkPolicyDigest ≠ capsule.networkPolicyDigest)
    (permissionDenied "RUNTIME_NETWORK_POLICY_MISMATCH")
  raiseIf (bootstrap.workspaceMountMode ≠ readOnlyMountMode)
    (permissionDenied "RUNTIME_WORKSPACE_NOT_READ_ONLY")
  raiseIf (bootstrap.networkEgressDefault ≠ denyAllNetworkDefault)
    (permissionDenied "RUNTIME_NETWORK_NOT_DENY_ALL")
  raiseIf (bootstrap.inheritedCredentials ≠ .bool false)
    (permissionDenied "RUNTIME_INHERITED_CREDENTIALS")
  raiseIf (bootstrap.providerMutationAllowed ≠ .bool false)
    (permissionDenied "RUNTIME_PROVIDER_MUTATION_ALLOWED")

variable (adapter : IsolatedRunnerAdapter)

/-- The identity of a reported runtime, without its digests. -/
def identityDraft (bootstrap : IsolatedRuntimeBootstrap) : RunnerIdentity where
  runnerId := ""
  runnerClass := bootstrap.runnerClass
  provider := bootstrap.provider
  providerInstanceId := bootstrap.providerInstanceId
  environment := bootstrap.environment
  rootfsDigest := bootstrap.rootfsDigest
  resourceLimitProfileDigest := bootstrap.resourceLimitProfileDigest
  networkPolicyDigest := bootstrap.networkPolicyDigest
  identityRevision := adapter.identityRevision
  identityDigest := ""

variable {sha256 : String → String}

def prepare (answers : RuntimeAnswers sha256) (lease : ExecutionLease)
    (capsule : ExecutionCapsule) (definition : CapabilityDefinition) :
    Except Raised PreparedIsolatedRuntime := do
  raiseIf (definition.effectClass ≠ readOnlyEffectClass)
    (permissionDenied "PHASE_D_EFFECT_NOT_READ_ONLY")
  raiseIf (lease.executionCapsuleDigest ≠ capsule.capsuleDigest)
    (permissionDenied "RUNTIME_CAPSULE_BINDING_MISMATCH")
  raiseIf (lease.runnerClass ≠ capsule.runnerClass)
    (permissionDenied "RUNTIME_RUNNER_CLASS_MISMATCH")
  let bootstrap ← answers.bootstrap
  assertBootstrapBound bootstrap lease capsule
  let identity ← RunnerIdentity.create sha256 (adapter.identityDraft bootstrap)
  let boundary ← RunnerBoundary.create sha256 identity lease capsule definition
    adapter.boundaryRevision
  let decision ← answers.authorization
  let runtime : PreparedIsolatedRuntime := { bootstrap, identity, boundary, decision, lease }
  runtime.assertRuntimeBinding
  return runtime

def activate (answers : RuntimeAnswers sha256) (prepared : PreparedIsolatedRuntime) :
    Except Raised ReadOnlyRuntimeActivation := do
  prepared.assertRuntimeBinding
  answers.current
  let activation ← answers.activation
  let expected ← ReadOnlyRuntimeActivation.create sha256 prepared adapter.activationRevision
  raiseIf (activation ≠ expected) (permissionDenied "RUNTIME_ACTIVATION_BINDING_MISMATCH")
  return activation

end IsolatedRunnerAdapter

end VoodooOne
