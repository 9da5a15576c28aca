import VoodooOne.Authorization.Authorities

/-!
# Capabilities and their capsules

A capability definition lives under a digest of its own.  Each registered capsule belongs to one
registered definition and agrees with it.
-/

namespace VoodooOne

def readThenCompare : String := "READ_THEN_COMPARE"

def atomicProviderCondition : String := "ATOMIC_PROVIDER_CONDITION"

/-- `ExecutionCapsule`.  The environment in which an execution may run. -/
structure ExecutionCapsule where
  (capabilityDefinitionIdentity targetKind handlerId handlerDigest : String)
  (moduleManifestDigest artifactKind artifactDigest rootfsDigest dependencyLockDigest : String)
  (sbomDigest networkPolicyDigest resourceLimitProfileDigest credentialClass : String)
  (runnerClass preconditionEnforcementClass verificationClass : String)
  (verificationContractIdentity capsuleRevision capsuleDigest : String)
deriving DecidableEq

namespace ExecutionCapsule

/-- `_claims`, apart from version and type. -/
def claims (capsule : ExecutionCapsule) : List (String × Json) :=
  [("capability_definition_identity", .str capsule.capabilityDefinitionIdentity),
    ("target_kind", .str capsule.targetKind),
    ("handler_id", .str capsule.handlerId),
    ("handler_digest", .str capsule.handlerDigest),
    ("module_manifest_digest", .str capsule.moduleManifestDigest),
    ("artifact_kind", .str capsule.artifactKind),
    ("artifact_digest", .str capsule.artifactDigest),
    ("rootfs_digest", .str capsule.rootfsDigest),
    ("dependency_lock_digest", .str capsule.dependencyLockDigest),
    ("sbom_digest", .str capsule.sbomDigest),
    ("network_policy_digest", .str capsule.networkPolicyDigest),
    ("resource_limit_profile_digest", .str capsule.resourceLimitProfileDigest),
    ("credential_class", .str capsule.credentialClass),
    ("runner_class", .str capsule.runnerClass),
    ("precondition_enforcement_class", .str capsule.preconditionEnforcementClass),
    ("verification_class", .str capsule.verificationClass),
    ("verification_contract_identity", .str capsule.verificationContractIdentity),
    ("capsule_revision", .str capsule.capsuleRevision)]

def ofAttributes (self : Attributes) : ExecutionCapsule where
  capabilityDefinitionIdentity := self.text "capability_definition_identity"
  targetKind := self.text "target_kind"
  handlerId := self.text "handler_id"
  handlerDigest := self.text "handler_digest"
  moduleManifestDigest := self.text "module_manifest_digest"
  artifactKind := self.text "artifact_kind"
  artifactDigest := self.text "artifact_digest"
  rootfsDigest := self.text "rootfs_digest"
  dependencyLockDigest := self.text "dependency_lock_digest"
  sbomDigest := self.text "sbom_digest"
  networkPolicyDigest := self.text "network_policy_digest"
  resourceLimitProfileDigest := self.text "resource_limit_profile_digest"
  credentialClass := self.text "credential_class"
  runnerClass := self.text "runner_class"
  preconditionEnforcementClass := self.text "precondition_enforcement_class"
  verificationClass := self.text "verification_class"
  verificationContractIdentity := self.text "verification_contract_identity"
  capsuleRevision := self.text "capsule_revision"
  capsuleDigest := self.text "capsule_digest"

def contract : Contract ExecutionCapsule where
  contractType := "execution-capsule/v1"
  typeField := "capsule_type"
  digestField := "capsule_digest"
  mismatch := "capsule_digest does not match execution capsule"
  attributes :=
    ["capability_definition_identity", "target_kind", "handler_id", "handler_digest",
      "module_manifest_digest", "artifact_kind", "artifact_digest", "rootfs_digest",
      "dependency_lock_digest", "sbom_digest", "network_policy_digest",
      "resource_limit_profile_digest", "credential_class", "runner_class",
      "precondition_enforcement_class", "verification_class",
      "verification_contract_identity", "capsule_revision"].map
      fun field => (field, .text)
  checks :=
    requireDigests ["capability_definition_identity", "handler_digest", "module_manifest_digest",
      "artifact_digest", "rootfs_digest", "dependency_lock_digest", "sbom_digest",
      "network_policy_digest", "resource_limit_profile_digest", "verification_contract_identity",
      "capsule_digest"] ++
    requireTexts ["target_kind", "handler_id", "artifact_kind", "credential_class", "runner_class",
      "verification_class", "capsule_revision"] ++
    [.oneOf "precondition_enforcement_class" [readThenCompare, atomicProviderCondition]
      "precondition_enforcement_class is unsupported"]
  ofAttributes := ofAttributes
  claims := claims
  digest := capsuleDigest
  withDigest capsule digest := { capsule with capsuleDigest := digest }
  check _ _ := .ok ()

end ExecutionCapsule

namespace CapabilityDefinition

/-- `_claims_without_identity`. -/
def claims (definition : CapabilityDefinition) : Json :=
  .object [("definition_type", .str "capability-definition/v1"),
    ("capability", .str definition.capability),
    ("target_kind", .str definition.targetKind),
    ("binder_id", .str definition.binderId),
    ("handler_id", .str definition.handlerId),
    ("effect_class", .str definition.effectClass),
    ("verification_class", .str definition.verificationClass),
    ("supported_environments", .arr (definition.supportedEnvironments.map .str)),
    ("required_permissions", .arr (definition.requiredPermissions.map .str)),
    ("production_eligible", .bool definition.productionEligible)]

def postInit (sha256 : String → String) (definition : CapabilityDefinition) :
    Except Raised Unit := do
  raiseIf (matchesCapability definition.capability = false) (valueError "capability is invalid")
  requireTextFields
    [("target_kind", definition.targetKind), ("binder_id", definition.binderId),
      ("handler_id", definition.handlerId), ("effect_class", definition.effectClass),
      ("verification_class", definition.verificationClass)]
  raiseIf (definition.supportedEnvironments = [] ∨
      definition.supportedEnvironments ≠ sortedNames definition.supportedEnvironments.dedup ∨
      ∃ environment ∈ definition.supportedEnvironments, environment ∉ validEnvironments)
    (valueError "supported_environments are invalid")
  raiseIf (definition.requiredPermissions = [] ∨
      definition.requiredPermissions ≠ sortedNames definition.requiredPermissions.dedup)
    (valueError "required_permissions are invalid")
  requireTextFields (definition.requiredPermissions.map fun permission =>
    ("required_permission", permission))
  raiseIf (requiredExecutionPermission ∉ definition.requiredPermissions)
    (valueError "required_permissions must include execution.run")
  raiseIf (definition.productionEligible = true ∧ "production" ∉ definition.supportedEnvironments)
    (valueError "production-eligible capability must support production")
  let _ ← requireHexDigest (.str definition.definitionIdentity) "definition_identity"
  raiseIf (definition.definitionIdentity ≠ digestOf sha256 definition.claims)
    (valueError "definition_identity does not match capability definition")

end CapabilityDefinition

def CapabilityRegistry.definitionByIdentity (registry : CapabilityRegistry)
    (definitionIdentity : String) : Except Raised CapabilityDefinition := do
  let definitionIdentity ← requireText (.str definitionIdentity) "definition_identity"
  orRaise ⟨.lookupError, "capability definition identity not found"⟩
    (Table.lookup (·.definitionIdentity) registry.definitions definitionIdentity)

def ExecutionCapsule.Registers (capsule : ExecutionCapsule) (capabilities : CapabilityRegistry) :
    Prop :=
  ∃ definition,
    capabilities.definitionByIdentity capsule.capabilityDefinitionIdentity = .ok definition ∧
      capsule.handlerId = definition.handlerId ∧ capsule.targetKind = definition.targetKind ∧
        capsule.verificationClass = definition.verificationClass

/-- `ImmutableExecutionCapsuleRegistry`.  No two capsules have one definition or one digest. -/
structure ExecutionCapsuleRegistry where
  capabilities : CapabilityRegistry
  capsules : List ExecutionCapsule
  nonempty : capsules ≠ []
  registers : ∀ capsule ∈ capsules, capsule.Registers capabilities
  definitions_distinct : (capsules.map (·.capabilityDefinitionIdentity)).Nodup
  digests_distinct : (capsules.map (·.capsuleDigest)).Nodup

namespace ExecutionCapsuleRegistry

def capsuleForDefinition (registry : ExecutionCapsuleRegistry) (definitionIdentity : String) :
    Except Raised ExecutionCapsule := do
  let definitionIdentity ← requireDigest (.str definitionIdentity) "definition_identity"
  orRaise ⟨.lookupError, "execution capsule not found"⟩
    (Table.lookup (·.capabilityDefinitionIdentity) registry.capsules definitionIdentity)

variable {registry : ExecutionCapsuleRegistry}

theorem capsuleForDefinition_eq_ok {definitionIdentity : String} {capsule : ExecutionCapsule}
    (found : registry.capsuleForDefinition definitionIdentity = .ok capsule) :
    capsule ∈ registry.capsules ∧ capsule.capabilityDefinitionIdentity = definitionIdentity := by
  simp only [capsuleForDefinition, bind_eq_ok, requireDigest_eq_ok, orRaise_eq_ok,
    Json.str.injEq] at found
  obtain ⟨_, ⟨rfl, -⟩, found⟩ := found
  exact Table.mem_of_lookup found

theorem eq_of_digest {left right : ExecutionCapsule} (leftMember : left ∈ registry.capsules)
    (rightMember : right ∈ registry.capsules) (same : left.capsuleDigest = right.capsuleDigest) :
    left = right :=
  List.inj_on_of_nodup_map registry.digests_distinct leftMember rightMember same

end ExecutionCapsuleRegistry

end VoodooOne
