import VoodooOne.Authorization.Snapshot
import VoodooOne.Resume.Kinds

/-!
# Stored lineages

The rows of one execution, the documents in them, and the checks that tie the documents to their
rows, to each other and to the snapshot.
-/

namespace VoodooOne

/-- A selected row: the texts and the integers in its columns. -/
structure StoredRow where
  texts : String → String
  integers : String → Int

inductive ExpectedValue where
  | text (value : String)
  | integer (value : Int)

namespace StoredRow

def Holds (row : StoredRow) (column : String) : ExpectedValue → Prop
  | .text value => row.texts column = value
  | .integer value => row.integers column = value

instance (row : StoredRow) (column : String) : DecidablePred (row.Holds column) := fun
  | .text value => inferInstanceAs (Decidable (row.texts column = value))
  | .integer value => inferInstanceAs (Decidable (row.integers column = value))

/-- `_require_row_projection`. -/
def requireProjection (row : StoredRow) (expected : List (String × ExpectedValue))
    (error : Raised) : Except Raised Unit :=
  forEach (fun entry => raiseIf (¬row.Holds entry.1 entry.2) error) expected

end StoredRow

/-- `_one_row`, among the rows with a text in a column. -/
def oneRow (table : List StoredRow) (column value artifact : String) : Except Raised StoredRow :=
  match table.filter (·.texts column = value) with
  | [] => .error (resumeDenied (artifact ++ "_NOT_FOUND"))
  | [row] => .ok row
  | _ => .error (resumeDenied (artifact ++ "_AMBIGUOUS"))

structure SelectStatement where
  texts : List String
  integers : List String

def selectGrantByExecution : SelectStatement :=
  ⟨["jti", "grant_id", "execution_id", "request_id", "workspace_id", "environment",
      "authorization_snapshot_digest", "execution_capsule_digest", "grant_digest", "grant_json",
      "issuance_conformance_witness_digest", "issuance_conformance_witness_json",
      "store_clock_witness_digest", "store_clock_witness_json", "issued_at", "expires_at",
      "stored_at"], ["revocation_epoch"]⟩

def selectConsumptionById : SelectStatement :=
  ⟨["consumption_id", "jti", "grant_digest", "execution_id", "authorization_snapshot_digest",
      "execution_capsule_digest", "runner_class", "conformance_witness_digest",
      "conformance_witness_json", "clock_witness_digest", "clock_witness_json", "consumed_at",
      "serialization_contract", "authority_revision", "consumption_digest", "consumption_json"],
    ["live_revocation_epoch"]⟩

def selectOutboxByExecution : SelectStatement :=
  ⟨["outbox_id", "consumption_id", "consumption_witness_digest", "jti", "grant_id", "grant_digest",
      "execution_id", "request_id", "actor_id", "workspace_id", "environment", "capability",
      "capability_definition_identity", "authorization_snapshot_digest", "target_kind",
      "target_digest", "payload_digest", "required_permission", "execution_binding_digest",
      "execution_capsule_digest", "runner_class", "precondition_enforcement_class",
      "use_semantics", "created_at", "outbox_revision", "entry_digest", "entry_json"], []⟩

def selectInboxByExecution : SelectStatement :=
  ⟨["admission_id", "dispatch_id", "envelope_digest", "outbox_id", "outbox_entry_digest",
      "execution_id", "workspace_id", "environment", "execution_capsule_digest", "runner_class",
      "admission_revision", "admission_digest", "admission_json"], []⟩

def selectEpochStateByExecution : SelectStatement :=
  ⟨["admission_id", "admission_digest", "execution_id", "workspace_id", "environment",
      "execution_capsule_digest", "runner_class", "current_lease_id", "current_lease_digest",
      "current_lease_acquired_at", "current_lease_expires_at", "status"], ["current_epoch"]⟩

def selectLeaseById : SelectStatement :=
  ⟨["lease_id", "admission_id", "dispatch_id", "admission_digest", "execution_id", "workspace_id",
      "environment", "execution_capsule_digest", "runner_class", "acquired_at", "expires_at",
      "clock_witness_digest", "clock_witness_json", "lease_revision", "lease_digest",
      "lease_json"], ["execution_epoch"]⟩

structure LineageTables where
  (grants consumptions outbox inbox epochStates leases : List StoredRow)

structure LineageRows where
  (grant outbox consumption inbox epochState lease : StoredRow)

def LineageTables.rows (tables : LineageTables) (executionId : String) :
    Except Raised LineageRows := do
  let grant ← oneRow tables.grants "execution_id" executionId "GRANT"
  let outbox ← oneRow tables.outbox "execution_id" executionId "OUTBOX"
  let consumptionId ← catching decodeErrors (resumeDenied "OUTBOX_ROW_INVALID")
    (requireText (.str (outbox.texts "consumption_id")) "consumption_id")
  let consumption ← oneRow tables.consumptions "consumption_id" consumptionId "CONSUMPTION"
  let inbox ← oneRow tables.inbox "execution_id" executionId "INBOX"
  let epochState ← oneRow tables.epochStates "execution_id" executionId "EPOCH_STATE"
  let lease ← oneRow tables.leases "lease_id" (epochState.texts "current_lease_id") "LEASE"
  return ⟨grant, outbox, consumption, inbox, epochState, lease⟩

structure LineageDocuments where
  grant : ExecutionGrantV2
  issuanceConformance : ExecutionConformanceWitness
  storeClock : ClockWitness
  consumption : GrantConsumptionWitness
  conformance : ExecutionConformanceWitness
  clock : ClockWitness
  outbox : DispatchOutboxEntry
  admission : DispatchInboxAdmission
  lease : ExecutionLease
  leaseClock : ClockWitness

def LineageRows.documents (sha256 : String → String) (floats : FloatRepr) (rows : LineageRows) :
    Except Raised LineageDocuments := do
  let conformanceKind := ExecutionConformanceWitness.documentKind sha256
  let clockKind := ClockWitness.documentKind sha256
  let grant ← (ExecutionGrantV2.contract.documentKind sha256).decodeValue floats "GRANT"
    (rows.grant.texts "grant_json")
  let issuanceConformance ← conformanceKind.decodeValue floats "GRANT_ISSUANCE_CONFORMANCE"
    (rows.grant.texts "issuance_conformance_witness_json")
  let storeClock ← clockKind.decodeValue floats "GRANT_STORE_CLOCK"
    (rows.grant.texts "store_clock_witness_json")
  let consumption ← (GrantConsumptionWitness.contract.documentKind sha256).decodeValue floats
    "CONSUMPTION" (rows.consumption.texts "consumption_json")
  let conformance ← conformanceKind.decodeValue floats "CONSUMPTION_CONFORMANCE"
    (rows.consumption.texts "conformance_witness_json")
  let clock ← clockKind.decodeValue floats "CONSUMPTION_CLOCK"
    (rows.consumption.texts "clock_witness_json")
  let outbox ← (DispatchOutboxEntry.contract.documentKind sha256).decodeValue floats "OUTBOX"
    (rows.outbox.texts "entry_json")
  let admission ← (DispatchInboxAdmission.contract.documentKind sha256).decodeValue floats "INBOX"
    (rows.inbox.texts "admission_json")
  let lease ← (ExecutionLease.contract.documentKind sha256).decodeValue floats "LEASE"
    (rows.lease.texts "lease_json")
  let leaseClock ← clockKind.decodeValue floats "LEASE_CLOCK"
    (rows.lease.texts "clock_witness_json")
  return ⟨grant, issuanceConformance, storeClock, consumption, conformance, clock, outbox,
    admission, lease, leaseClock⟩

namespace LineageRows

variable (rows : LineageRows)

/-- What `_validate_grant_row` expects. -/
def grantExpected (grant : ExecutionGrantV2) : List (String × ExpectedValue) :=
  [("jti", .text grant.jti),
    ("grant_id", .text grant.grantId),
    ("execution_id", .text grant.executionId),
    ("request_id", .text grant.requestId),
    ("workspace_id", .text grant.workspaceId),
    ("environment", .text grant.environment),
    ("authorization_snapshot_digest", .text grant.authorizationSnapshotDigest),
    ("execution_capsule_digest", .text grant.executionCapsuleDigest),
    ("grant_digest", .text grant.grantDigest),
    ("issued_at", .text grant.issuedAt),
    ("expires_at", .text grant.expiresAt),
    ("revocation_epoch", .integer grant.revocationEpoch)]

/-- What `_validate_grant_supporting_witnesses` expects of the row. -/
def grantWitnessesExpected (conformance : ExecutionConformanceWitness) (clock : ClockWitness) :
    List (String × ExpectedValue) :=
  [("issuance_conformance_witness_digest", .text conformance.witnessDigest),
    ("store_clock_witness_digest", .text clock.witnessDigest),
    ("stored_at", .text clock.observedAt)]

/-- The attributes of a grant that a conformance witness repeats. -/
def grantConformance (grant : ExecutionGrantV2) : List String :=
  [grant.grantDigest, grant.executionBindingDigest, grant.executionCapsuleDigest,
    grant.capabilityDefinitionIdentity, grant.targetKind, grant.runnerClass,
    grant.preconditionEnforcementClass]

/-- These attributes as a conformance witness shows them. -/
def witnessConformance (witness : ExecutionConformanceWitness) : List String :=
  [witness.grantDigest, witness.executionBindingDigest, witness.executionCapsuleDigest,
    witness.capabilityDefinitionIdentity, witness.targetKind, witness.runnerClass,
    witness.preconditionEnforcementClass]

def validateGrantSupportingWitnesses (grant : ExecutionGrantV2)
    (conformance : ExecutionConformanceWitness) (clock : ClockWitness) : Except Raised Unit := do
  rows.grant.requireProjection (grantWitnessesExpected conformance clock)
    (resumeDenied "GRANT_SUPPORTING_WITNESS_ROW_INVALID")
  raiseIf (witnessConformance conformance ++ [clock.environment] ≠
      grantConformance grant ++ [grant.environment])
    (resumeDenied "GRANT_SUPPORTING_WITNESS_MISMATCH")
  raiseIf (¬(grant.issuedAt ≤ clock.observedAt ∧ clock.observedAt < grant.expiresAt))
    (resumeDenied "GRANT_STORE_CLOCK_OUTSIDE_VALIDITY")

/-- What `_validate_consumption_row` expects. -/
def consumptionExpected (consumption : GrantConsumptionWitness) : List (String × ExpectedValue) :=
  [("consumption_id", .text consumption.consumptionId),
    ("jti", .text consumption.jti),
    ("grant_digest", .text consumption.grantDigest),
    ("execution_id", .text consumption.executionId),
    ("authorization_snapshot_digest", .text consumption.authorizationSnapshotDigest),
    ("execution_capsule_digest", .text consumption.executionCapsuleDigest),
    ("runner_class", .text consumption.runnerClass),
    ("conformance_witness_digest", .text consumption.conformanceWitnessDigest),
    ("clock_witness_digest", .text consumption.clockWitnessDigest),
    ("live_revocation_epoch", .integer consumption.liveRevocationEpoch),
    ("consumed_at", .text consumption.consumedAt),
    ("serialization_contract", .text consumption.serializationContract),
    ("authority_revision", .text consumption.authorityRevision),
    ("consumption_digest", .text consumption.witnessDigest)]

def validateConsumptionSupportingWitnesses (grant : ExecutionGrantV2)
    (consumption : GrantConsumptionWitness) (conformance : ExecutionConformanceWitness)
    (clock : ClockWitness) : Except Raised Unit := do
  raiseIf (conformance.witnessDigest :: witnessConformance conformance ++
        [clock.witnessDigest, clock.environment, clock.observedAt] ≠
      consumption.conformanceWitnessDigest :: grantConformance grant ++
        [consumption.clockWitnessDigest, grant.environment, consumption.consumedAt])
    (resumeDenied "CONSUMPTION_SUPPORTING_WITNESS_MISMATCH")
  raiseIf (¬(grant.issuedAt ≤ clock.observedAt ∧ clock.observedAt < grant.expiresAt))
    (resumeDenied "CONSUMPTION_CLOCK_OUTSIDE_GRANT_VALIDITY")

/-- What `_validate_outbox_row` expects. -/
def outboxExpected (outbox : DispatchOutboxEntry) : List (String × ExpectedValue) :=
  [("outbox_id", .text outbox.outboxId),
    ("consumption_id", .text outbox.consumptionId),
    ("consumption_witness_digest", .text outbox.consumptionWitnessDigest),
    ("jti", .text outbox.jti),
    ("grant_id", .text outbox.grantId),
    ("grant_digest", .text outbox.grantDigest),
    ("execution_id", .text outbox.executionId),
    ("request_id", .text outbox.requestId),
    ("actor_id", .text outbox.actorId),
    ("workspace_id", .text outbox.workspaceId),
    ("environment", .text outbox.environment),
    ("capability", .text outbox.capability),
    ("capability_definition_identity", .text outbox.capabilityDefinitionIdentity),
    ("authorization_snapshot_digest", .text outbox.authorizationSnapshotDigest),
    ("target_kind", .text outbox.targetKind),
    ("target_digest", .text outbox.targetDigest),
    ("payload_digest", .text outbox.payloadDigest),
    ("required_permission", .text outbox.requiredPermission),
    ("execution_binding_digest", .text outbox.executionBindingDigest),
    ("execution_capsule_digest", .text outbox.executionCapsuleDigest),
    ("runner_class", .text outbox.runnerClass),
    ("precondition_enforcement_class", .text outbox.preconditionEnforcementClass),
    ("use_semantics", .text outbox.useSemantics),
    ("created_at", .text outbox.createdAt),
    ("outbox_revision", .text outbox.outboxRevision),
    ("entry_digest", .text outbox.entryDigest)]

/-- What `_validate_inbox_row` expects. -/
def inboxExpected (admission : DispatchInboxAdmission) : List (String × ExpectedValue) :=
  [("admission_id", .text admission.admissionId),
    ("dispatch_id", .text admission.dispatchId),
    ("envelope_digest", .text admission.envelopeDigest),
    ("outbox_id", .text admission.outboxId),
    ("outbox_entry_digest", .text admission.outboxEntryDigest),
    ("execution_id", .text admission.executionId),
    ("workspace_id", .text admission.workspaceId),
    ("environment", .text admission.environment),
    ("execution_capsule_digest", .text admission.executionCapsuleDigest),
    ("runner_class", .text admission.runnerClass),
    ("admission_revision", .text admission.admissionRevision),
    ("admission_digest", .text admission.admissionDigest)]

/-- What `_validate_lease_row` expects. -/
def leaseExpected (lease : ExecutionLease) : List (String × ExpectedValue) :=
  [("lease_id", .text lease.leaseId),
    ("admission_id", .text lease.admissionId),
    ("dispatch_id", .text lease.dispatchId),
    ("admission_digest", .text lease.admissionDigest),
    ("execution_id", .text lease.executionId),
    ("workspace_id", .text lease.workspaceId),
    ("environment", .text lease.environment),
    ("execution_capsule_digest", .text lease.executionCapsuleDigest),
    ("runner_class", .text lease.runnerClass),
    ("execution_epoch", .integer lease.executionEpoch),
    ("acquired_at", .text lease.acquiredAt),
    ("expires_at", .text lease.expiresAt),
    ("clock_witness_digest", .text lease.clockWitnessDigest),
    ("lease_revision", .text lease.leaseRevision),
    ("lease_digest", .text lease.leaseDigest)]

/-- What `_validate_epoch_state` expects, apart from the status. -/
def epochStateExpected (admission : DispatchInboxAdmission) (lease : ExecutionLease) :
    List (String × ExpectedValue) :=
  [("admission_id", .text admission.admissionId),
    ("admission_digest", .text admission.admissionDigest),
    ("execution_id", .text lease.executionId),
    ("workspace_id", .text lease.workspaceId),
    ("environment", .text lease.environment),
    ("execution_capsule_digest", .text lease.executionCapsuleDigest),
    ("runner_class", .text lease.runnerClass),
    ("current_epoch", .integer lease.executionEpoch),
    ("current_lease_id", .text lease.leaseId),
    ("current_lease_digest", .text lease.leaseDigest),
    ("current_lease_acquired_at", .text lease.acquiredAt),
    ("current_lease_expires_at", .text lease.expiresAt)]

def validateEpochState (admission : DispatchInboxAdmission) (lease : ExecutionLease) :
    Except Raised Unit := do
  raiseIf (rows.epochState.texts "status" ≠ "ACTIVE") (resumeDenied "EXECUTION_NOT_ACTIVE")
  rows.epochState.requireProjection (epochStateExpected admission lease)
    (resumeDenied "CURRENT_EXECUTION_LEASE_MISMATCH")

end LineageRows

namespace LineageDocuments

variable (documents : LineageDocuments)

/-- `_validate_lease_supporting_clock_witness`. -/
def validateLeaseClock : Except Raised Unit :=
  raiseIf ([documents.leaseClock.witnessDigest, documents.leaseClock.environment,
      documents.leaseClock.observedAt] ≠ [documents.lease.clockWitnessDigest,
      documents.lease.environment, documents.lease.acquiredAt])
    (resumeDenied "LEASE_CLOCK_WITNESS_MISMATCH")

def validateChain (snapshot : AuthorizationSnapshot) : Except Raised Unit := do
  let grant := documents.grant
  let consumption := documents.consumption
  let outbox := documents.outbox
  let admission := documents.admission
  let lease := documents.lease
  raiseIf ([grant.executionId, grant.requestId, grant.actorId, grant.workspaceId,
      grant.environment, grant.capability, grant.capabilityDefinitionIdentity, grant.targetKind,
      grant.targetDigest, grant.payloadDigest, grant.policyVersion, grant.policyIdentity,
      grant.approvalSetDigest, grant.authorizationSnapshotDigest] ≠
    [snapshot.executionId, snapshot.requestId, snapshot.actorId, snapshot.workspaceId,
      snapshot.environment, snapshot.capability, snapshot.capabilityDefinitionIdentity,
      snapshot.targetKind, snapshot.targetDigest, snapshot.payloadDigest, snapshot.policyVersion,
      snapshot.policyIdentity, snapshot.approvalSetDigest, snapshot.snapshotDigest])
    (resumeDenied "SNAPSHOT_GRANT_BINDING_MISMATCH")
  raiseIf (grant.requiredPermission ≠ requiredExecutionPermission)
    (resumeDenied "GRANT_PERMISSION_MISMATCH")
  raiseIf ([consumption.jti, consumption.grantId, consumption.grantDigest,
      consumption.executionId, consumption.authorizationSnapshotDigest,
      consumption.executionCapsuleDigest, consumption.runnerClass] ≠
        [grant.jti, grant.grantId, grant.grantDigest, grant.executionId,
          grant.authorizationSnapshotDigest, grant.executionCapsuleDigest, grant.runnerClass] ∨
      consumption.liveRevocationEpoch ≠ grant.revocationEpoch)
    (resumeDenied "GRANT_CONSUMPTION_BINDING_MISMATCH")
  raiseIf ([outbox.consumptionId, outbox.consumptionWitnessDigest, outbox.createdAt] ≠
      [consumption.consumptionId, consumption.witnessDigest, consumption.consumedAt])
    (resumeDenied "CONSUMPTION_OUTBOX_BINDING_MISMATCH")
  raiseIf ([outbox.jti, outbox.grantId, outbox.grantDigest, outbox.executionId, outbox.requestId,
      outbox.actorId, outbox.workspaceId, outbox.environment, outbox.capability,
      outbox.capabilityDefinitionIdentity, outbox.authorizationSnapshotDigest, outbox.targetKind,
      outbox.targetDigest, outbox.payloadDigest, outbox.requiredPermission,
      outbox.executionBindingDigest, outbox.executionCapsuleDigest, outbox.runnerClass,
      outbox.preconditionEnforcementClass, outbox.useSemantics] ≠
    [grant.jti, grant.grantId, grant.grantDigest, grant.executionId, grant.requestId,
      grant.actorId, grant.workspaceId, grant.environment, grant.capability,
      grant.capabilityDefinitionIdentity, grant.authorizationSnapshotDigest, grant.targetKind,
      grant.targetDigest, grant.payloadDigest, grant.requiredPermission,
      grant.executionBindingDigest, grant.executionCapsuleDigest, grant.runnerClass,
      grant.preconditionEnforcementClass, grant.useSemantics])
    (resumeDenied "GRANT_OUTBOX_BINDING_MISMATCH")
  let durable := [outbox.executionId, outbox.workspaceId, outbox.environment,
    outbox.executionCapsuleDigest, outbox.runnerClass]
  raiseIf ([admission.executionId, admission.workspaceId, admission.environment,
        admission.executionCapsuleDigest, admission.runnerClass] ≠ durable ∨
      [lease.executionId, lease.workspaceId, lease.environment, lease.executionCapsuleDigest,
        lease.runnerClass] ≠ durable)
    (resumeDenied "DURABLE_EXECUTION_BINDING_MISMATCH")

/-- The envelope of the outbox entry, which the admission and the lease are bound to. -/
def boundEnvelope (sha256 : String → String) (envelopeRevision : String) :
    Except Raised DispatchEnvelope :=
  catching [.permissionError, .valueError] (resumeDenied "DURABLE_CHAIN_BINDING_MISMATCH") do
    let envelope ← DispatchEnvelope.create sha256 documents.outbox envelopeRevision
    documents.admission.assertBoundTo sha256 envelope documents.outbox
    documents.lease.assertBoundTo documents.admission
    return envelope

end LineageDocuments

/-- The documents and the envelope of rows that pass every check. -/
def LineageRows.validated (sha256 : String → String) (floats : FloatRepr)
    (envelopeRevision : String) (rows : LineageRows) (snapshot : AuthorizationSnapshot) :
    Except Raised (LineageDocuments × DispatchEnvelope) := do
  let documents ← rows.documents sha256 floats
  rows.grant.requireProjection (grantExpected documents.grant) (resumeDenied "GRANT_ROW_INVALID")
  rows.validateGrantSupportingWitnesses documents.grant documents.issuanceConformance
    documents.storeClock
  rows.consumption.requireProjection (consumptionExpected documents.consumption)
    (resumeDenied "CONSUMPTION_ROW_INVALID")
  validateConsumptionSupportingWitnesses documents.grant documents.consumption
    documents.conformance documents.clock
  rows.outbox.requireProjection (outboxExpected documents.outbox)
    (resumeDenied "OUTBOX_ROW_INVALID")
  rows.inbox.requireProjection (inboxExpected documents.admission)
    (resumeDenied "INBOX_ROW_INVALID")
  rows.lease.requireProjection (leaseExpected documents.lease) (resumeDenied "LEASE_ROW_INVALID")
  documents.validateLeaseClock
  documents.validateChain snapshot
  let envelope ← documents.boundEnvelope sha256 envelopeRevision
  rows.validateEpochState documents.admission documents.lease
  return (documents, envelope)

end VoodooOne
