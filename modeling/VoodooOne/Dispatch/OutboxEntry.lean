import VoodooOne.Grant.ExecutionGrant

/-!
# Dispatch outbox entries

An outbox entry is the dispatch intent of one consumed grant.
-/

namespace VoodooOne

open Calendar

structure DispatchOutboxEntry where
  /-- Identifiers of the entry and of its consumption and grant. -/
  (outboxId consumptionId consumptionWitnessDigest jti grantId grantDigest : String)
  (executionId requestId actorId workspaceId environment : String)
  (capability capabilityDefinitionIdentity authorizationSnapshotDigest : String)
  (targetKind targetDigest payloadDigest requiredPermission : String)
  (executionBindingDigest executionCapsuleDigest runnerClass : String)
  (preconditionEnforcementClass useSemantics : String)
  /-- Time, revision and digest. -/
  (createdAt outboxRevision entryDigest : String)
deriving DecidableEq, Repr

/-- Conditions that outbox entries and envelopes share, with the time they are about. -/
def dispatchConditions (requiredPermission useSemantics preconditionEnforcementClass : String)
    (time timeField : String) : Except Raised Unit := do
  let _ ← requireTimestamp (.str time) timeField
  raiseIf (requiredPermission ≠ requiredExecutionPermission)
    (valueError "required_permission must be execution.run")
  raiseIf (useSemantics ≠ oneTimeUse) (valueError "use_semantics must be ONE_TIME")
  raiseIf (preconditionEnforcementClass ∉ preconditionEnforcementClasses)
    (valueError "precondition_enforcement_class is unsupported")

namespace DispatchOutboxEntry

/-- `_claims_without_digest`, apart from version and type. -/
def claims (entry : DispatchOutboxEntry) : List (String × Json) :=
  [("outbox_id", .str entry.outboxId),
    ("consumption_id", .str entry.consumptionId),
    ("consumption_witness_digest", .str entry.consumptionWitnessDigest),
    ("jti", .str entry.jti),
    ("grant_id", .str entry.grantId),
    ("grant_digest", .str entry.grantDigest),
    ("execution_id", .str entry.executionId),
    ("request_id", .str entry.requestId),
    ("actor_id", .str entry.actorId),
    ("workspace_id", .str entry.workspaceId),
    ("environment", .str entry.environment),
    ("capability", .str entry.capability),
    ("capability_definition_identity", .str entry.capabilityDefinitionIdentity),
    ("authorization_snapshot_digest", .str entry.authorizationSnapshotDigest),
    ("target_kind", .str entry.targetKind),
    ("target_digest", .str entry.targetDigest),
    ("payload_digest", .str entry.payloadDigest),
    ("required_permission", .str entry.requiredPermission),
    ("execution_binding_digest", .str entry.executionBindingDigest),
    ("execution_capsule_digest", .str entry.executionCapsuleDigest),
    ("runner_class", .str entry.runnerClass),
    ("precondition_enforcement_class", .str entry.preconditionEnforcementClass),
    ("use_semantics", .str entry.useSemantics),
    ("created_at", .str entry.createdAt),
    ("outbox_revision", .str entry.outboxRevision)]

def ofAttributes (self : Attributes) : DispatchOutboxEntry where
  outboxId := self.text "outbox_id"
  consumptionId := self.text "consumption_id"
  consumptionWitnessDigest := self.text "consumption_witness_digest"
  jti := self.text "jti"
  grantId := self.text "grant_id"
  grantDigest := self.text "grant_digest"
  executionId := self.text "execution_id"
  requestId := self.text "request_id"
  actorId := self.text "actor_id"
  workspaceId := self.text "workspace_id"
  environment := self.text "environment"
  capability := self.text "capability"
  capabilityDefinitionIdentity := self.text "capability_definition_identity"
  authorizationSnapshotDigest := self.text "authorization_snapshot_digest"
  targetKind := self.text "target_kind"
  targetDigest := self.text "target_digest"
  payloadDigest := self.text "payload_digest"
  requiredPermission := self.text "required_permission"
  executionBindingDigest := self.text "execution_binding_digest"
  executionCapsuleDigest := self.text "execution_capsule_digest"
  runnerClass := self.text "runner_class"
  preconditionEnforcementClass := self.text "precondition_enforcement_class"
  useSemantics := self.text "use_semantics"
  createdAt := self.text "created_at"
  outboxRevision := self.text "outbox_revision"
  entryDigest := self.text "entry_digest"

def contract : Contract DispatchOutboxEntry where
  contractType := "dispatch-outbox-entry/v1"
  typeField := "entry_type"
  digestField := "entry_digest"
  mismatch := "entry_digest does not match dispatch outbox entry"
  attributes :=
    ["outbox_id", "consumption_id", "consumption_witness_digest", "jti", "grant_id",
      "grant_digest", "execution_id", "request_id", "actor_id", "workspace_id", "environment",
      "capability", "capability_definition_identity", "authorization_snapshot_digest",
      "target_kind", "target_digest", "payload_digest", "required_permission",
      "execution_binding_digest", "execution_capsule_digest", "runner_class",
      "precondition_enforcement_class", "use_semantics", "created_at",
      "outbox_revision"].map fun field => (field, .text)
  checks :=
    requireTexts ["outbox_id", "consumption_id", "jti", "grant_id", "execution_id", "request_id",
      "actor_id", "workspace_id", "environment", "capability", "target_kind",
      "required_permission", "runner_class", "precondition_enforcement_class", "use_semantics",
      "outbox_revision"] ++
    requireDigests ["consumption_witness_digest", "grant_digest",
      "capability_definition_identity", "authorization_snapshot_digest", "target_digest",
      "payload_digest", "execution_binding_digest", "execution_capsule_digest", "entry_digest"] ++
    [.text "created_at"]
  ofAttributes := ofAttributes
  claims := claims
  digest := entryDigest
  withDigest entry digest := { entry with entryDigest := digest }
  check _ entry := dispatchConditions entry.requiredPermission entry.useSemantics
    entry.preconditionEnforcementClass entry.createdAt "created_at"

theorem lawful : contract.Lawful where
  ofAttributes_eq self entry digest same := by
    simp only [contract, claims, List.cons_append, List.nil_append, List.forall_mem_cons] at same
    simp [contract, ofAttributes, Attributes.text, Json.text?, same]

def consumptionBinding (grant : ExecutionGrantV2) : List String :=
  [grant.jti, grant.grantId, grant.grantDigest, grant.executionId,
    grant.authorizationSnapshotDigest, grant.executionCapsuleDigest, grant.runnerClass]

/-- The claims that `create` makes. -/
def draft (outboxId : String) (grant : ExecutionGrantV2)
    (consumptionWitness : GrantConsumptionWitness) (outboxRevision : String) :
    DispatchOutboxEntry where
  outboxId
  consumptionId := consumptionWitness.consumptionId
  consumptionWitnessDigest := consumptionWitness.witnessDigest
  jti := grant.jti
  grantId := grant.grantId
  grantDigest := grant.grantDigest
  executionId := grant.executionId
  requestId := grant.requestId
  actorId := grant.actorId
  workspaceId := grant.workspaceId
  environment := grant.environment
  capability := grant.capability
  capabilityDefinitionIdentity := grant.capabilityDefinitionIdentity
  authorizationSnapshotDigest := grant.authorizationSnapshotDigest
  targetKind := grant.targetKind
  targetDigest := grant.targetDigest
  payloadDigest := grant.payloadDigest
  requiredPermission := grant.requiredPermission
  executionBindingDigest := grant.executionBindingDigest
  executionCapsuleDigest := grant.executionCapsuleDigest
  runnerClass := grant.runnerClass
  preconditionEnforcementClass := grant.preconditionEnforcementClass
  useSemantics := grant.useSemantics
  createdAt := consumptionWitness.consumedAt
  outboxRevision
  entryDigest := ""

def create (sha256 : String → String) (outboxId : String) (grant : ExecutionGrantV2)
    (consumptionWitness : GrantConsumptionWitness) (outboxRevision : String) :
    Except Raised DispatchOutboxEntry := do
  raiseIf ([consumptionWitness.jti, consumptionWitness.grantId, consumptionWitness.grantDigest,
      consumptionWitness.executionId, consumptionWitness.authorizationSnapshotDigest,
      consumptionWitness.executionCapsuleDigest, consumptionWitness.runnerClass] ≠
      consumptionBinding grant)
    ⟨.permissionError, "grant consumption witness does not bind the supplied execution grant"⟩
  contract.create sha256 (draft outboxId grant consumptionWitness outboxRevision)

def toDict (entry : DispatchOutboxEntry) : Json := contract.toDict entry

def fromDict (sha256 : String → String) (value : Json) : Except Raised DispatchOutboxEntry :=
  contract.fromDict sha256 value

theorem create_eq_ok {sha256 : String → String} {outboxId outboxRevision : String}
    {grant : ExecutionGrantV2} {consumptionWitness : GrantConsumptionWitness}
    {entry : DispatchOutboxEntry}
    (created : create sha256 outboxId grant consumptionWitness outboxRevision = .ok entry) :
    contract.create sha256 (draft outboxId grant consumptionWitness outboxRevision) = .ok entry ∧
      ∃ digest, entry =
        { draft outboxId grant consumptionWitness outboxRevision with entryDigest := digest } := by
  simp only [create, bind_eq_ok] at created
  obtain ⟨_, _, made⟩ := created
  exact ⟨made, _, Contract.eq_of_create lawful made⟩

end DispatchOutboxEntry

end VoodooOne
