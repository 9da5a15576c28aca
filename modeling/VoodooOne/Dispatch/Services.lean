import VoodooOne.Dispatch.InboxAdmission
import VoodooOne.Grant.Service

/-!
# Durable dispatch outbox

Consuming a grant and writing down its dispatch happen in one transaction, so neither exists
without the other.
-/

namespace VoodooOne

def DispatchOutboxEntry.row (entry : DispatchOutboxEntry) : DispatchOutboxRow where
  outboxId := entry.outboxId
  consumptionId := entry.consumptionId
  consumptionWitnessDigest := entry.consumptionWitnessDigest
  jti := entry.jti
  grantId := entry.grantId
  grantDigest := entry.grantDigest
  executionId := entry.executionId
  requestId := entry.requestId
  actorId := entry.actorId
  workspaceId := entry.workspaceId
  environment := entry.environment
  capability := entry.capability
  capabilityDefinitionIdentity := entry.capabilityDefinitionIdentity
  authorizationSnapshotDigest := entry.authorizationSnapshotDigest
  targetKind := entry.targetKind
  targetDigest := entry.targetDigest
  payloadDigest := entry.payloadDigest
  requiredPermission := entry.requiredPermission
  executionBindingDigest := entry.executionBindingDigest
  executionCapsuleDigest := entry.executionCapsuleDigest
  runnerClass := entry.runnerClass
  preconditionEnforcementClass := entry.preconditionEnforcementClass
  useSemantics := entry.useSemantics
  createdAt := entry.createdAt
  outboxRevision := entry.outboxRevision
  entryDigest := entry.entryDigest
  entry := entry.toDict

/-- `DurableDispatchOutboxService`, with the condition its constructor checks. -/
structure DurableDispatchOutboxService where
  grantService : DurableGrantService
  outboxRevision : String
  revision : ValidText outboxRevision

/-- Exceptions that interrupt the two writes and the commit of one call. -/
structure EnqueueFaults where
  (consumption outbox commit : Except Raised Unit)

namespace DurableDispatchOutboxService

/-- `_deny`. -/
def denied (reason : String) : Raised := ⟨.dispatchOutboxPersistenceDenied, reason⟩

def consumeAndEnqueue (service : DurableDispatchOutboxService) (sha256 : String → String)
    (surroundings : GrantSurroundings) (consumptionId outboxId jti : String)
    (faults : EnqueueFaults) (db : Database) : Except Raised (DispatchOutboxEntry × Database) := do
  let prepared ← service.grantService.prepare sha256 surroundings consumptionId jti db
  let outbox ← DispatchOutboxEntry.create sha256 outboxId prepared.grant prepared.witness
    service.outboxRevision
  let consumed ← DurableGrantService.recordConsumption faults.consumption prepared db
  let enqueued ← catching [.databaseIntegrityError] (denied "OUTBOX_PERSISTENCE_CONFLICT") do
    faults.outbox
    consumed.insertDispatchOutbox outbox.row
  faults.commit
  return (outbox, enqueued)

end DurableDispatchOutboxService

inductive InboxOutcome where
  | admitted
  | duplicateRedelivery
deriving DecidableEq, Repr

structure DispatchInboxPersistenceResult where
  outcome : InboxOutcome
  admission : DispatchInboxAdmission
deriving DecidableEq

/-- `DurableDispatchInboxService`, with the condition its constructor checks. -/
structure DurableDispatchInboxService where
  admissionRevision : String
  revision : ValidText admissionRevision

namespace DurableDispatchInboxService

/-- `_deny`. -/
def denied (reason : String) : Raised := ⟨.dispatchInboxPersistenceDenied, reason⟩

/-- `DispatchInboxContentConflict()`. -/
def contentConflict : Raised := ⟨.dispatchInboxContentConflict, "DISPATCH_CONTENT_CONFLICT"⟩

def decodeOutbox (sha256 : String → String) (row : DispatchOutboxRow) :
    Except Raised DispatchOutboxEntry := do
  let outbox ← catching [.typeError, .valueError] (denied "OUTBOX_ROW_INVALID")
    (DispatchOutboxEntry.fromDict sha256 row.entry)
  raiseIf (row ≠ outbox.row) (denied "OUTBOX_ROW_INVALID")
  return outbox

def decodeAdmission (sha256 : String → String) (row : DispatchInboxRow) :
    Except Raised DispatchInboxAdmission := do
  let admission ← catching [.typeError, .valueError] (denied "INBOX_ROW_INVALID")
    (DispatchInboxAdmission.fromDict sha256 row.admission)
  raiseIf (row ≠ admission.row) (denied "INBOX_ROW_INVALID")
  return admission

/-- The `except` clauses around `classify_redelivery`: a conflict is raised as it is. -/
def classified : Except Raised Unit → Except Raised Unit
  | .ok () => .ok ()
  | .error error =>
      if error.cls.isA .dispatchInboxContentConflict then .error error
      else catching [.permissionError, .valueError] (denied "INBOX_ROW_INVALID") (.error error)

/-- `admit`. -/
def admitEnvelope (service : DurableDispatchInboxService) (sha256 : String → String)
    (envelope : DispatchEnvelope) (db : Database) :
    Except Raised (DispatchInboxPersistenceResult × Database) := do
  let outboxRow ← orRaise (denied "OUTBOX_NOT_FOUND")
    (Table.lookup (·.outboxId) db.dispatchOutbox envelope.outboxId)
  let outbox ← decodeOutbox sha256 outboxRow
  catching [.permissionError] (denied "OUTBOX_BINDING_MISMATCH")
    (envelope.assertBoundTo sha256 outbox)
  match Table.lookup (·.dispatchId) db.dispatchInbox envelope.dispatchId with
  | some existingRow =>
      let existing ← decodeAdmission sha256 existingRow
      classified (existing.classifyRedelivery sha256 envelope outbox)
      return (⟨.duplicateRedelivery, existing⟩, db)
  | none =>
      let admission ← DispatchInboxAdmission.create sha256 envelope outbox
        service.admissionRevision
      let db ← catching [.databaseIntegrityError] (denied "INBOX_PERSISTENCE_CONFLICT")
        (db.insertDispatchInbox admission.row)
      return (⟨.admitted, admission⟩, db)

end DurableDispatchInboxService

end VoodooOne
