import VoodooOne.Authority.Permission
import VoodooOne.Authorization.Approvals
import VoodooOne.Grant.ExecutionGrant

/-!
# Authorities of an authorization

The registries that the creation of a snapshot asks, and the digest-bound records of their answers.
-/

namespace VoodooOne

structure CapabilitySelection where
  (adapter capability authorityRevision selectionDigest : String)
deriving DecidableEq, Repr

structure CapabilityDefinition where
  (capability targetKind binderId handlerId effectClass verificationClass : String)
  (supportedEnvironments requiredPermissions : List String)
  productionEligible : Bool
  definitionIdentity : String
deriving DecidableEq, Repr

structure CapabilityActivation where
  capabilityDefinitionIdentity : String
  enabledEnvironments : List String
  revoked : Bool
  activationDigest : String
deriving DecidableEq, Repr

/-- `ImmutableCapabilityRegistry`. -/
structure CapabilityRegistry where
  definitions : List CapabilityDefinition
  activations : List CapabilityActivation

namespace CapabilityRegistry

def definition (registry : CapabilityRegistry) (capability : String) :
    Except Raised CapabilityDefinition := do
  let capability ← requireText (.str capability) "capability"
  orRaise ⟨.lookupError, "capability definition not found"⟩
    (Table.lookup (·.capability) registry.definitions capability)

def activation (registry : CapabilityRegistry) (definitionIdentity : String) :
    Except Raised CapabilityActivation := do
  let definitionIdentity ← requireText (.str definitionIdentity) "definition_identity"
  orRaise ⟨.permissionError, "capability is not activated"⟩
    (Table.lookup (·.capabilityDefinitionIdentity) registry.activations definitionIdentity)

def resolveForExecution (registry : CapabilityRegistry) (capability environment : String) :
    Except Raised (CapabilityDefinition × CapabilityActivation) := do
  raiseIf (environment ∉ validEnvironments) (valueError "environment is invalid")
  let definition ← registry.definition capability
  let activation ← registry.activation definition.definitionIdentity
  raiseIf (activation.revoked = true) ⟨.permissionError, "capability activation is revoked"⟩
  raiseIf (environment ∉ activation.enabledEnvironments)
    ⟨.permissionError, "capability is not active in environment"⟩
  raiseIf (environment ∉ definition.supportedEnvironments)
    ⟨.permissionError, "capability does not support environment"⟩
  raiseIf (environment = "production" ∧ definition.productionEligible = false)
    ⟨.permissionError, "capability is not production eligible"⟩
  return (definition, activation)

end CapabilityRegistry

structure PolicyRevision where
  policyVersion : String
  approvalValiditySeconds : Nat
  requiredApprovals : List (String × Nat)
  policyIdentity : String
deriving DecidableEq, Repr

def PolicyRevision.requiredApprovalsFor (policy : PolicyRevision) (environment : String) :
    Except Raised Nat := do
  raiseIf (environment ∉ validEnvironments) (valueError "unknown environment")
  orRaise ⟨.keyError, environment⟩ (policy.requiredApprovals.lookup environment)

/-- `ImmutablePolicyAuthority.resolve`, over the revisions of the authority. -/
def resolvePolicy (revisions : List PolicyRevision) (policyVersion : String) :
    Except Raised PolicyRevision := do
  let policyVersion ← requireText (.str policyVersion) "policy_version"
  orRaise ⟨.lookupError, "policy revision not found"⟩
    (Table.lookup (·.policyVersion) revisions policyVersion)

structure TargetBinding where
  (binderId capabilityDefinitionIdentity : String)
  target : ExecutionTarget
  bindingDigest : String
deriving DecidableEq

def TargetBinding.create (sha256 : String → String) (binderId capabilityDefinitionIdentity : String)
    (target : ExecutionTarget) : Except Raised TargetBinding := do
  let binderId ← requireText (.str binderId) "binder_id"
  let identity ← requireHexDigest (.str capabilityDefinitionIdentity)
    "capability_definition_identity"
  let bindingDigest ← requireHexDigest (.str (digestOf sha256 (.object
    [("binding_type", .str "target-binding/v1"), ("binder_id", .str binderId),
      ("capability_definition_identity", .str identity), ("target", target.toDict)])))
    "binding_digest"
  return ⟨binderId, identity, target, bindingDigest⟩

/-- `TargetBinder`; `none` is an answer that is no target. -/
structure TargetBinder (sha256 : String → String) where
  (binderId targetKind : String)
  bind : Json → Except Raised (Option ExecutionTarget)
  created : ∀ payload target, bind payload = .ok (some target) → target.Created sha256

/-- `TargetBinderRegistry.bind`, over the binders of the registry. -/
def bindTarget (sha256 : String → String) (binders : List (TargetBinder sha256))
    (definition : CapabilityDefinition) (approvedPayload : Json) : Except Raised TargetBinding := do
  let binderId ← requireText (.str definition.binderId) "binder_id"
  let binder ← orRaise ⟨.lookupError, "target binder not found"⟩
    (Table.lookup (·.binderId) binders binderId)
  raiseIf (binder.targetKind ≠ definition.targetKind)
    (valueError "target binder kind does not match capability definition")
  let answer ← binder.bind approvedPayload
  let target ← orRaise (valueError "target binder returned invalid target") answer
  raiseIf (target.targetKind ≠ definition.targetKind)
    (valueError "target binder returned unexpected target kind")
  TargetBinding.create sha256 binder.binderId definition.definitionIdentity target

theorem TargetBinding.create_eq_ok {sha256 : String → String}
    {binderId capabilityDefinitionIdentity : String} {target : ExecutionTarget}
    {binding : TargetBinding}
    (created : create sha256 binderId capabilityDefinitionIdentity target = .ok binding) :
    binding.target = target := by
  simp only [create, bind_eq_ok, pure_eq_ok] at created
  obtain ⟨_, -, _, -, _, -, rfl⟩ := created
  rfl

theorem bindTarget_eq_ok {sha256 : String → String} {binders : List (TargetBinder sha256)}
    {definition : CapabilityDefinition} {approvedPayload : Json} {binding : TargetBinding}
    (bound : bindTarget sha256 binders definition approvedPayload = .ok binding) :
    binding.target.Created sha256 := by
  simp only [bindTarget, bind_eq_ok, orRaise_eq_ok] at bound
  obtain ⟨_, -, binder, -, _, -, _, answered, target, rfl, _, -, created⟩ := bound
  rw [← TargetBinding.create_eq_ok created] at answered
  exact binder.created _ _ answered

structure ApprovalCertificate where
  (requestId reviewContentSha256 policyVersion policyIdentity : String)
  approvalEvidence : ApprovalEvidenceSet
  certificateDigest : String
deriving DecidableEq

def ApprovalCertificate.create (sha256 : String → String) (reviewContentSha256 : String)
    (policy : PolicyRevision) (evidence : ApprovalEvidenceSet) :
    Except Raised ApprovalCertificate := do
  raiseIf (evidence.policyVersion ≠ policy.policyVersion)
    (valueError "approval evidence does not use supplied policy revision")
  let review ← requireHexDigest (.str reviewContentSha256) "review_content_sha256"
  let policyIdentity ← requireHexDigest (.str policy.policyIdentity) "policy_identity"
  let certificateDigest ← requireHexDigest (.str (digestOf sha256 (.object
    [("certificate_type", .str "approval-certificate/v1"), ("request_id", .str evidence.requestId),
      ("review_content_sha256", .str review), ("policy_version", .str policy.policyVersion),
      ("policy_identity", .str policyIdentity), ("approval_evidence", evidence.toDict)])))
    "certificate_digest"
  return ⟨evidence.requestId, review, policy.policyVersion, policyIdentity, evidence,
    certificateDigest⟩

structure AuthorityWitnessSet where
  (permissionDecisionDigest policyIdentity capabilityDefinitionIdentity : String)
  (capabilityActivationDigest targetBindingDigest approvalCertificateDigest : String)
  clockWitnessDigest : String
  revocationEpoch : Int
  witnessSetDigest : String
deriving DecidableEq, Repr

namespace AuthorityWitnessSet

def claimsWithoutDigest (witnesses : AuthorityWitnessSet) : Json :=
  .object [("witness_set_type", .str "authority-witness-set/v1"),
    ("permission_decision_digest", .str witnesses.permissionDecisionDigest),
    ("policy_identity", .str witnesses.policyIdentity),
    ("capability_definition_identity", .str witnesses.capabilityDefinitionIdentity),
    ("capability_activation_digest", .str witnesses.capabilityActivationDigest),
    ("target_binding_digest", .str witnesses.targetBindingDigest),
    ("approval_certificate_digest", .str witnesses.approvalCertificateDigest),
    ("clock_witness_digest", .str witnesses.clockWitnessDigest),
    ("revocation_epoch", .int witnesses.revocationEpoch)]

def create (sha256 : String → String) (decision : PermissionDecision) (policy : PolicyRevision)
    (definition : CapabilityDefinition) (activation : CapabilityActivation)
    (binding : TargetBinding) (certificate : ApprovalCertificate) (clockWitness : ClockWitness)
    (revocationEpoch : Int) : Except Raised AuthorityWitnessSet := do
  raiseIf (decision.granted = false) ⟨.permissionError, "permission decision is denied"⟩
  raiseIf (decision.permission ≠ requiredExecutionPermission)
    ⟨.permissionError, "authority witness requires execution.run"⟩
  raiseIf (requiredExecutionPermission ∉ definition.requiredPermissions)
    (valueError "capability definition does not require execution.run")
  raiseIf (activation.revoked = true) ⟨.permissionError, "capability activation is revoked"⟩
  raiseIf (activation.capabilityDefinitionIdentity ≠ definition.definitionIdentity)
    (valueError "capability activation definition binding mismatch")
  raiseIf (binding.capabilityDefinitionIdentity ≠ definition.definitionIdentity)
    (valueError "target binding capability definition mismatch")
  raiseIf (certificate.policyIdentity ≠ policy.policyIdentity)
    (valueError "approval certificate policy identity mismatch")
  raiseIf (certificate.policyVersion ≠ policy.policyVersion)
    (valueError "approval certificate policy version mismatch")
  raiseIf (certificate.approvalEvidence.capability ≠ definition.capability)
    (valueError "approval certificate capability mismatch")
  raiseIf (certificate.approvalEvidence.targetDigest ≠ binding.target.targetDigest)
    (valueError "approval certificate target binding mismatch")
  raiseIf (decision.environment ≠ clockWitness.environment)
    (valueError "permission and clock environment mismatch")
  raiseIf (decision.environment ∉ activation.enabledEnvironments)
    ⟨.permissionError, "capability is not active for permission environment"⟩
  raiseIf (revocationEpoch < 0) (valueError "revocation_epoch must be non-negative")
  let draft : AuthorityWitnessSet := ⟨decision.decisionDigest, policy.policyIdentity,
    definition.definitionIdentity, activation.activationDigest, binding.bindingDigest,
    certificate.certificateDigest, clockWitness.witnessDigest, revocationEpoch, ""⟩
  let witnesses :=
    { draft with witnessSetDigest := digestOf sha256 draft.claimsWithoutDigest }
  forEach (fun named => do let _ ← requireHexDigest (.str named.2) named.1)
    [("permission_decision_digest", witnesses.permissionDecisionDigest),
      ("policy_identity", witnesses.policyIdentity),
      ("capability_definition_identity", witnesses.capabilityDefinitionIdentity),
      ("capability_activation_digest", witnesses.capabilityActivationDigest),
      ("target_binding_digest", witnesses.targetBindingDigest),
      ("approval_certificate_digest", witnesses.approvalCertificateDigest),
      ("clock_witness_digest", witnesses.clockWitnessDigest),
      ("witness_set_digest", witnesses.witnessSetDigest)]
  return witnesses

theorem create_eq_ok {sha256 : String → String} {decision : PermissionDecision}
    {policy : PolicyRevision} {definition : CapabilityDefinition}
    {activation : CapabilityActivation}
    {binding : TargetBinding} {certificate : ApprovalCertificate} {clockWitness : ClockWitness}
    {revocationEpoch : Int} {witnesses : AuthorityWitnessSet}
    (created : create sha256 decision policy definition activation binding certificate clockWitness
      revocationEpoch = .ok witnesses) :
    witnesses.revocationEpoch = revocationEpoch ∧
      witnesses.capabilityDefinitionIdentity = definition.definitionIdentity := by
  simp only [create, bind_eq_ok, pure_eq_ok] at created
  obtain ⟨_, -, _, -, _, -, _, -, _, -, _, -, _, -, _, -, _, -, _, -, _, -, _, -, _, -, _, -,
    rfl⟩ :=
    created
  exact ⟨rfl, rfl⟩

end AuthorityWitnessSet

end VoodooOne
