import VoodooOne.Dispatch.OutboxEntry

/-!
# Dispatch envelopes

An envelope carries one outbox entry to the inbox.  Its dispatch identity is determined by the
entry, so every delivery of the entry has the same identity.
-/

namespace VoodooOne

structure DispatchEnvelope where
  /-- Identity of the dispatch. -/
  dispatchId : String
  /-- Identifiers of the outbox entry and of its consumption and grant. -/
  (outboxId outboxEntryDigest consumptionId consumptionWitnessDigest : String)
  (jti grantId grantDigest : String)
  (executionId requestId actorId workspaceId environment : String)
  (capability capabilityDefinitionIdentity authorizationSnapshotDigest : String)
  (targetKind targetDigest payloadDigest requiredPermission : String)
  (executionBindingDigest executionCapsuleDigest runnerClass : String)
  (preconditionEnforcementClass useSemantics : String)
  /-- Time and revision of the outbox entry. -/
  (outboxCreatedAt outboxRevision : String)
  (deliverySemantics envelopeRevision : String)
  envelopeDigest : String
deriving DecidableEq, Repr

def deliverySemantics : String := "AT_LEAST_ONCE_REDELIVERY_DEDUP_REQUIRED"

def dispatchId (sha256 : String → String) (outboxId outboxEntryDigest : String) : String :=
  digestOf sha256 (.object [("identity_type", .str "dispatch-id/v1"), ("outbox_id", .str outboxId),
    ("outbox_entry_digest", .str outboxEntryDigest)])

namespace DispatchEnvelope

/-- `_claims_without_digest`, apart from version and type. -/
def claims (envelope : DispatchEnvelope) : List (String × Json) :=
  [("dispatch_id", .str envelope.dispatchId),
    ("outbox_id", .str envelope.outboxId),
    ("outbox_entry_digest", .str envelope.outboxEntryDigest),
    ("consumption_id", .str envelope.consumptionId),
    ("consumption_witness_digest", .str envelope.consumptionWitnessDigest),
    ("jti", .str envelope.jti),
    ("grant_id", .str envelope.grantId),
    ("grant_digest", .str envelope.grantDigest),
    ("execution_id", .str envelope.executionId),
    ("request_id", .str envelope.requestId),
    ("actor_id", .str envelope.actorId),
    ("workspace_id", .str envelope.workspaceId),
    ("environment", .str envelope.environment),
    ("capability", .str envelope.capability),
    ("capability_definition_identity", .str envelope.capabilityDefinitionIdentity),
    ("authorization_snapshot_digest", .str envelope.authorizationSnapshotDigest),
    ("target_kind", .str envelope.targetKind),
    ("target_digest", .str envelope.targetDigest),
    ("payload_digest", .str envelope.payloadDigest),
    ("required_permission", .str envelope.requiredPermission),
    ("execution_binding_digest", .str envelope.executionBindingDigest),
    ("execution_capsule_digest", .str envelope.executionCapsuleDigest),
    ("runner_class", .str envelope.runnerClass),
    ("precondition_enforcement_class", .str envelope.preconditionEnforcementClass),
    ("use_semantics", .str envelope.useSemantics),
    ("outbox_created_at", .str envelope.outboxCreatedAt),
    ("outbox_revision", .str envelope.outboxRevision),
    ("delivery_semantics", .str envelope.deliverySemantics),
    ("envelope_revision", .str envelope.envelopeRevision)]

def ofAttributes (self : Attributes) : DispatchEnvelope where
  dispatchId := self.text "dispatch_id"
  outboxId := self.text "outbox_id"
  outboxEntryDigest := self.text "outbox_entry_digest"
  consumptionId := self.text "consumption_id"
  consumptionWitnessDigest := self.text "consumption_witness_digest"
  jti := self.text "jti"
  grantId := self.text "grant_id"
  grantDigest := self.text "grant_digest"
  executionId := self.text "execution_id"
  requestId := self.text "request_id"
  actorId := self.text "actor_id"
  workspaceId := self.text "workspace_id"
  environment := self.text "environment"
  capability := self.text "capability"
  capabilityDefinitionIdentity := self.text "capability_definition_identity"
  authorizationSnapshotDigest := self.text "authorization_snapshot_digest"
  targetKind := self.text "target_kind"
  targetDigest := self.text "target_digest"
  payloadDigest := self.text "payload_digest"
  requiredPermission := self.text "required_permission"
  executionBindingDigest := self.text "execution_binding_digest"
  executionCapsuleDigest := self.text "execution_capsule_digest"
  runnerClass := self.text "runner_class"
  preconditionEnforcementClass := self.text "precondition_enforcement_class"
  useSemantics := self.text "use_semantics"
  outboxCreatedAt := self.text "outbox_created_at"
  outboxRevision := self.text "outbox_revision"
  deliverySemantics := self.text "delivery_semantics"
  envelopeRevision := self.text "envelope_revision"
  envelopeDigest := self.text "envelope_digest"

def contract : Contract DispatchEnvelope where
  contractType := "dispatch-envelope/v1"
  typeField := "envelope_type"
  digestField := "envelope_digest"
  mismatch := "envelope_digest does not match dispatch envelope"
  attributes :=
    ["dispatch_id", "outbox_id", "outbox_entry_digest", "consumption_id",
      "consumption_witness_digest", "jti", "grant_id", "grant_digest", "execution_id",
      "request_id", "actor_id", "workspace_id", "environment", "capability",
      "capability_definition_identity", "authorization_snapshot_digest", "target_kind",
      "target_digest", "payload_digest", "required_permission", "execution_binding_digest",
      "execution_capsule_digest", "runner_class", "precondition_enforcement_class",
      "use_semantics", "outbox_created_at", "outbox_revision", "delivery_semantics",
      "envelope_revision"].map fun field => (field, .text)
  checks :=
    requireTexts ["outbox_id", "consumption_id", "jti", "grant_id", "execution_id", "request_id",
      "actor_id", "workspace_id", "environment", "capability", "target_kind",
      "required_permission", "runner_class", "precondition_enforcement_class", "use_semantics",
      "outbox_revision", "delivery_semantics", "envelope_revision"] ++
    requireDigests ["dispatch_id", "outbox_entry_digest", "consumption_witness_digest",
      "grant_digest", "capability_definition_identity", "authorization_snapshot_digest",
      "target_digest", "payload_digest", "execution_binding_digest", "execution_capsule_digest",
      "envelope_digest"] ++
    [.text "outbox_created_at"]
  ofAttributes := ofAttributes
  claims := claims
  digest := envelopeDigest
  withDigest envelope digest := { envelope with envelopeDigest := digest }
  check sha256 envelope := do
    dispatchConditions envelope.requiredPermission envelope.useSemantics
      envelope.preconditionEnforcementClass envelope.outboxCreatedAt "outbox_created_at"
    raiseIf (envelope.deliverySemantics ≠ VoodooOne.deliverySemantics)
      (valueError "delivery_semantics is unsupported")
    raiseIf (envelope.dispatchId ≠
        VoodooOne.dispatchId sha256 envelope.outboxId envelope.outboxEntryDigest)
      (valueError "dispatch_id does not bind the outbox identity")

theorem lawful : contract.Lawful where
  ofAttributes_eq self envelope digest same := by
    simp only [contract, claims, List.cons_append, List.nil_append, List.forall_mem_cons] at same
    simp [contract, ofAttributes, Attributes.text, Json.text?, same]

/-- `_projection` of an outbox entry, after its dispatch identity. -/
def projection (sha256 : String → String) (entry : DispatchOutboxEntry) : List String :=
  [VoodooOne.dispatchId sha256 entry.outboxId entry.entryDigest, entry.outboxId,
    entry.entryDigest, entry.consumptionId, entry.consumptionWitnessDigest, entry.jti,
    entry.grantId, entry.grantDigest, entry.executionId, entry.requestId, entry.actorId,
    entry.workspaceId, entry.environment, entry.capability, entry.capabilityDefinitionIdentity,
    entry.authorizationSnapshotDigest, entry.targetKind, entry.targetDigest, entry.payloadDigest,
    entry.requiredPermission, entry.executionBindingDigest, entry.executionCapsuleDigest,
    entry.runnerClass, entry.preconditionEnforcementClass, entry.useSemantics, entry.createdAt,
    entry.outboxRevision]

/-- The attributes that an envelope takes from its outbox entry. -/
def projected (envelope : DispatchEnvelope) : List String :=
  [envelope.dispatchId, envelope.outboxId, envelope.outboxEntryDigest, envelope.consumptionId,
    envelope.consumptionWitnessDigest, envelope.jti, envelope.grantId, envelope.grantDigest,
    envelope.executionId, envelope.requestId, envelope.actorId, envelope.workspaceId,
    envelope.environment, envelope.capability, envelope.capabilityDefinitionIdentity,
    envelope.authorizationSnapshotDigest, envelope.targetKind, envelope.targetDigest,
    envelope.payloadDigest, envelope.requiredPermission, envelope.executionBindingDigest,
    envelope.executionCapsuleDigest, envelope.runnerClass, envelope.preconditionEnforcementClass,
    envelope.useSemantics, envelope.outboxCreatedAt, envelope.outboxRevision]

def create (sha256 : String → String) (entry : DispatchOutboxEntry) (envelopeRevision : String) :
    Except Raised DispatchEnvelope := do
  let _ ← requireText (.str envelopeRevision) "envelope_revision"
  contract.create sha256
    { dispatchId := VoodooOne.dispatchId sha256 entry.outboxId entry.entryDigest
      outboxId := entry.outboxId
      outboxEntryDigest := entry.entryDigest
      consumptionId := entry.consumptionId
      consumptionWitnessDigest := entry.consumptionWitnessDigest
      jti := entry.jti
      grantId := entry.grantId
      grantDigest := entry.grantDigest
      executionId := entry.executionId
      requestId := entry.requestId
      actorId := entry.actorId
      workspaceId := entry.workspaceId
      environment := entry.environment
      capability := entry.capability
      capabilityDefinitionIdentity := entry.capabilityDefinitionIdentity
      authorizationSnapshotDigest := entry.authorizationSnapshotDigest
      targetKind := entry.targetKind
      targetDigest := entry.targetDigest
      payloadDigest := entry.payloadDigest
      requiredPermission := entry.requiredPermission
      executionBindingDigest := entry.executionBindingDigest
      executionCapsuleDigest := entry.executionCapsuleDigest
      runnerClass := entry.runnerClass
      preconditionEnforcementClass := entry.preconditionEnforcementClass
      useSemantics := entry.useSemantics
      outboxCreatedAt := entry.createdAt
      outboxRevision := entry.outboxRevision
      deliverySemantics := VoodooOne.deliverySemantics
      envelopeRevision
      envelopeDigest := "" }

def assertBoundTo (sha256 : String → String) (envelope : DispatchEnvelope)
    (entry : DispatchOutboxEntry) : Except Raised Unit :=
  raiseIf (envelope.projected ≠ projection sha256 entry)
    ⟨.permissionError, "dispatch envelope does not bind the supplied outbox entry"⟩

end DispatchEnvelope

end VoodooOne
