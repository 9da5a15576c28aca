import VoodooOne.Runtime.Capability

/-!
# Conformance of handlers

Evidence says that a handler is the one that a capsule names.  The registry takes evidence that
repeats every one of these fields of a registered capsule.
-/

namespace VoodooOne

/-- `HandlerConformanceEvidence`.  That a handler is the one of a capsule. -/
structure HandlerConformanceEvidence where
  (capabilityDefinitionIdentity executionCapsuleDigest handlerId handlerDigest : String)
  (runnerClass credentialClass preconditionEnforcementClass : String)
  verificationContractIdentity : String
  atomicProviderConditionContractIdentity : Json
  (evidenceRevision evidenceDigest : String)
deriving DecidableEq

namespace HandlerConformanceEvidence

/-- `_claims`, apart from version and type. -/
def claims (evidence : HandlerConformanceEvidence) : List (String × Json) :=
  [("capability_definition_identity", .str evidence.capabilityDefinitionIdentity),
    ("execution_capsule_digest", .str evidence.executionCapsuleDigest),
    ("handler_id", .str evidence.handlerId),
    ("handler_digest", .str evidence.handlerDigest),
    ("runner_class", .str evidence.runnerClass),
    ("credential_class", .str evidence.credentialClass),
    ("precondition_enforcement_class", .str evidence.preconditionEnforcementClass),
    ("verification_contract_identity", .str evidence.verificationContractIdentity),
    ("atomic_provider_condition_contract_identity",
      evidence.atomicProviderConditionContractIdentity),
    ("evidence_revision", .str evidence.evidenceRevision)]

def ofAttributes (self : Attributes) : HandlerConformanceEvidence where
  capabilityDefinitionIdentity := self.text "capability_definition_identity"
  executionCapsuleDigest := self.text "execution_capsule_digest"
  handlerId := self.text "handler_id"
  handlerDigest := self.text "handler_digest"
  runnerClass := self.text "runner_class"
  credentialClass := self.text "credential_class"
  preconditionEnforcementClass := self.text "precondition_enforcement_class"
  verificationContractIdentity := self.text "verification_contract_identity"
  atomicProviderConditionContractIdentity := self "atomic_provider_condition_contract_identity"
  evidenceRevision := self.text "evidence_revision"
  evidenceDigest := self.text "evidence_digest"

/-- Only an atomic enforcement names a contract of the provider. -/
def checkCondition (evidence : HandlerConformanceEvidence) : Except Raised Unit :=
  if evidence.preconditionEnforcementClass = atomicProviderCondition then do
    let _ ← requireDigest evidence.atomicProviderConditionContractIdentity
      "atomic_provider_condition_contract_identity"
  else
    raiseIf (evidence.atomicProviderConditionContractIdentity ≠ .null)
      (valueError "atomic provider condition contract is forbidden for read-then-compare")

def contract : Contract HandlerConformanceEvidence where
  contractType := "handler-conformance-evidence/v1"
  typeField := "evidence_type"
  digestField := "evidence_digest"
  mismatch := "evidence_digest does not match handler conformance evidence"
  attributes :=
    ["capability_definition_identity", "execution_capsule_digest", "handler_id",
      "handler_digest", "runner_class", "credential_class", "precondition_enforcement_class",
      "verification_contract_identity", "atomic_provider_condition_contract_identity",
      "evidence_revision"].map
      fun field => (field,
        if field = "atomic_provider_condition_contract_identity" then .any else .text)
  checks :=
    requireDigests ["capability_definition_identity", "execution_capsule_digest", "handler_digest",
      "verification_contract_identity", "evidence_digest"] ++
    requireTexts ["handler_id", "runner_class", "credential_class", "evidence_revision"] ++
    [.oneOf "precondition_enforcement_class" [readThenCompare, atomicProviderCondition]
        "precondition_enforcement_class is unsupported",
      uncheckedAttribute "atomic_provider_condition_contract_identity"]
  ofAttributes := ofAttributes
  claims := claims
  digest := evidenceDigest
  withDigest evidence digest := { evidence with evidenceDigest := digest }
  check _ evidence := evidence.checkCondition

end HandlerConformanceEvidence

structure HandlerConformanceEvidence.Binds (evidence : HandlerConformanceEvidence)
    (capsule : ExecutionCapsule) : Prop where
  definition : evidence.capabilityDefinitionIdentity = capsule.capabilityDefinitionIdentity
  digest : evidence.executionCapsuleDigest = capsule.capsuleDigest
  handlerId : evidence.handlerId = capsule.handlerId
  handlerDigest : evidence.handlerDigest = capsule.handlerDigest
  runnerClass : evidence.runnerClass = capsule.runnerClass
  credentialClass : evidence.credentialClass = capsule.credentialClass
  enforcement : evidence.preconditionEnforcementClass = capsule.preconditionEnforcementClass
  verification : evidence.verificationContractIdentity = capsule.verificationContractIdentity

namespace HandlerConformanceEvidence

def bound (evidence : HandlerConformanceEvidence) : List String :=
  [evidence.capabilityDefinitionIdentity, evidence.executionCapsuleDigest, evidence.handlerId,
    evidence.handlerDigest, evidence.runnerClass, evidence.credentialClass,
    evidence.preconditionEnforcementClass, evidence.verificationContractIdentity]

/-- What such a table shows of the capsule. -/
def expected (capsule : ExecutionCapsule) : List String :=
  [capsule.capabilityDefinitionIdentity, capsule.capsuleDigest, capsule.handlerId,
    capsule.handlerDigest, capsule.runnerClass, capsule.credentialClass,
    capsule.preconditionEnforcementClass, capsule.verificationContractIdentity]

theorem binds_of_bound {evidence : HandlerConformanceEvidence} {capsule : ExecutionCapsule}
    (same : evidence.bound = expected capsule) : evidence.Binds capsule := by
  simp only [bound, expected, List.cons.injEq, and_true] at same
  obtain ⟨definition, digest, handlerId, handlerDigest, runnerClass, credentialClass, enforcement,
    verification⟩ := same
  exact ⟨definition, digest, handlerId, handlerDigest, runnerClass, credentialClass, enforcement,
    verification⟩

def assertExactCapsuleBinding (item : HandlerConformanceEvidence) (capsule : ExecutionCapsule) :
    Except Raised Unit := do
  raiseIf (item.bound ≠ expected capsule)
    (valueError "handler conformance evidence does not match capsule")
  raiseIf (capsule.preconditionEnforcementClass = atomicProviderCondition ∧
      item.atomicProviderConditionContractIdentity = .null)
    (valueError "atomic provider condition requires a content-addressed handler contract")
  raiseIf (capsule.preconditionEnforcementClass = readThenCompare ∧
      item.atomicProviderConditionContractIdentity ≠ .null)
    (valueError "read-then-compare handler evidence cannot claim atomic enforcement")

def Registers (item : HandlerConformanceEvidence) (capsules : ExecutionCapsuleRegistry) : Prop :=
  ∃ capsule, capsules.capsuleForDefinition item.capabilityDefinitionIdentity = .ok capsule ∧
    item.assertExactCapsuleBinding capsule = .ok ()

end HandlerConformanceEvidence

/-- `ImmutableHandlerConformanceRegistry`.  No two pieces of evidence are for one capsule. -/
structure HandlerConformanceRegistry where
  capsules : ExecutionCapsuleRegistry
  evidence : List HandlerConformanceEvidence
  nonempty : evidence ≠ []
  registers : ∀ item ∈ evidence, item.Registers capsules
  capsules_distinct : (evidence.map (·.executionCapsuleDigest)).Nodup

namespace HandlerConformanceRegistry

def resolve (registry : HandlerConformanceRegistry) (capsuleDigest : String) :
    Except Raised HandlerConformanceEvidence := do
  let capsuleDigest ← requireDigest (.str capsuleDigest) "capsule_digest"
  orRaise ⟨.permissionError, "handler conformance evidence is not registered for capsule"⟩
    (Table.lookup (·.executionCapsuleDigest) registry.evidence capsuleDigest)

end HandlerConformanceRegistry

end VoodooOne
