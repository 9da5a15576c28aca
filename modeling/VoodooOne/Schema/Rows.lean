import Mathlib.Tactic.Simps.Basic
import VoodooOne.Foundation.Checks

/-!
# Tables of the product database

One structure for the rows of each table, with the columns that the modelled code reads or writes.
A table is the list of its rows in insertion order.  Timestamps stay the texts that the database
compares; a JSON column holds the value whose canonical text is stored.
-/

namespace VoodooOne

/-- A row of `users`. -/
structure UserRow where
  /-- Identifier and name. -/
  (id username : String)
  /-- Role of the user. -/
  role : String
  /-- Whether the account is active. -/
  active : Bool
deriving DecidableEq

/-- A row of `workspaces`. -/
structure WorkspaceRow where
  (id name environment createdAt : String)
deriving DecidableEq

/-- A row of `workspace_memberships`. -/
structure WorkspaceMembershipRow where
  (workspaceId userId : String)
  /-- `owner` or `member`. -/
  membershipRole : String
  (createdBy createdAt : String)
deriving DecidableEq

inductive RequestStatus where
  | draft
  | reviewRequired
  | approved
  | denied
  | running
  | completed
  | failed
deriving DecidableEq, Repr

/-- A row of `change_requests`. -/
structure ChangeRequestRow where
  (id workspaceId : String)
  /-- Reviewed texts. -/
  (title description risk environment adapter : String)
  /-- Reviewed payload. -/
  payload : Json
  /-- Current status. -/
  status : RequestStatus
  /-- The requester and the times of creation and of the last update. -/
  (requestedBy createdAt updatedAt : String)
  /-- Digest of the reviewed content, set at submission. -/
  reviewContentSha256 : Option String
deriving DecidableEq

inductive ApprovalDecision where
  | approved
  | denied
deriving DecidableEq, Repr

/-- A row of `approvals`. -/
structure ApprovalRow where
  /-- Identifier, request and reviewer. -/
  (id requestId approverId : String)
  decision : ApprovalDecision
  /-- The reason given. -/
  reason : String
  /-- Digest of the content that was reviewed. -/
  reviewContentSha256 : Option String
  /-- Time of the decision. -/
  createdAt : String
deriving DecidableEq

inductive ExecutionStatus where
  | running
  | succeeded
  | failed
  | interrupted
deriving DecidableEq, Repr

/-- A row of `executions`. -/
structure ExecutionRow where
  (id requestId : String)
  /-- Current status. -/
  status : ExecutionStatus
  /-- Name of the adapter. -/
  adapter : String
  /-- Output of the adapter. -/
  output : Json
  /-- Error text of a failed execution. -/
  error : Option String
  /-- Key under which the start can be repeated. -/
  idempotencyKey : Option String
  /-- Time of the start. -/
  startedAt : String
  /-- Time of the terminal status. -/
  completedAt : Option String
  /-- Fence that a completion must present. -/
  fence : Nat
  /-- End of the lease of a running execution. -/
  leaseExpiresAt : Option String
deriving DecidableEq

/-- A row of `receipts`. -/
structure ReceiptRow where
  (id executionId : String)
  /-- Evidence of the execution. -/
  payload : Json
  /-- Hash chain and time. -/
  (previousHash receiptHash createdAt : String)
deriving DecidableEq

/-- A row of `audit_events`. -/
structure AuditEventRow where
  (id actorId action : String)
  /-- What the event is about. -/
  (targetType targetId : String)
  /-- Details of the event. -/
  payload : Json
  /-- Hash chain and time. -/
  (previousHash eventHash createdAt : String)
deriving DecidableEq

/-- The text of a runtime flag: a plain word or the canonical text of a value. -/
inductive FlagValue where
  | word (text : String)
  | record (value : Json)
deriving DecidableEq

/-- A row of `runtime_flags`. -/
structure RuntimeFlagRow where
  /-- Name of the flag. -/
  key : String
  value : FlagValue
  /-- Who set it and when. -/
  (updatedBy updatedAt : String)
deriving DecidableEq

/-- A row of `authorization_snapshots`. -/
structure AuthorizationSnapshotRow where
  /-- Identifiers of the snapshot, its execution, request, actor and workspace. -/
  (id executionId requestId actorId workspaceId environment : String)
  (reviewContentSha256 idempotencyKey idempotencyBindingDigest : String)
  snapshotDigest : String
  (snapshot executionTarget approvalEvidence : Json)
  /-- Time of creation. -/
  createdAt : String
deriving DecidableEq

/-- A row of `execution_grants_v2`. -/
structure ExecutionGrantRow where
  (jti grantId executionId requestId workspaceId environment : String)
  /-- Digests that the grant binds. -/
  (authorizationSnapshotDigest executionCapsuleDigest grantDigest : String)
  grant : Json
  issuanceConformanceWitnessDigest : String
  issuanceConformanceWitness : Json
  /-- Clock witness at storage. -/
  storeClockWitnessDigest : String
  /-- Clock witness at storage. -/
  storeClockWitness : Json
  /-- Times of issuance and expiry. -/
  (issuedAt expiresAt : String)
  /-- Revocation epoch at issuance. -/
  revocationEpoch : Int
  /-- Time and revision of the store. -/
  (storedAt storeRevision : String)
deriving DecidableEq

/-- A row of `grant_consumptions_v1`. -/
structure GrantConsumptionRow where
  (consumptionId jti grantDigest executionId : String)
  /-- Digests that the consumption binds. -/
  (authorizationSnapshotDigest executionCapsuleDigest : String)
  runnerClass : String
  /-- Conformance witness at consumption. -/
  conformanceWitnessDigest : String
  /-- Conformance witness at consumption. -/
  conformanceWitness : Json
  /-- Clock witness at consumption. -/
  clockWitnessDigest : String
  /-- Clock witness at consumption. -/
  clockWitness : Json
  /-- Revocation epoch read live at consumption. -/
  liveRevocationEpoch : Int
  /-- Time, serialization contract and revision. -/
  (consumedAt serializationContract authorityRevision : String)
  /-- Digest of the witness. -/
  consumptionDigest : String
  /-- The witness. -/
  consumption : Json
deriving DecidableEq

/-- A row of `dispatch_outbox_v1`. -/
structure DispatchOutboxRow where
  /-- Identifiers of the entry and of its consumption and grant. -/
  (outboxId consumptionId consumptionWitnessDigest jti grantId grantDigest : String)
  (executionId requestId actorId workspaceId environment : String)
  (capability capabilityDefinitionIdentity authorizationSnapshotDigest : String)
  (targetKind targetDigest payloadDigest requiredPermission : String)
  (executionBindingDigest executionCapsuleDigest runnerClass : String)
  (preconditionEnforcementClass useSemantics : String)
  /-- Time, revision and digest. -/
  (createdAt outboxRevision entryDigest : String)
  entry : Json
deriving DecidableEq

/-- A row of `dispatch_inbox_v1`. -/
structure DispatchInboxRow where
  (admissionId dispatchId envelopeDigest : String)
  /-- The admitted outbox entry. -/
  (outboxId outboxEntryDigest : String)
  (executionId workspaceId environment : String)
  (executionCapsuleDigest runnerClass : String)
  (admissionRevision admissionDigest : String)
  admission : Json
deriving DecidableEq

/-- A row of `execution_leases_v1`. -/
structure ExecutionLeaseRow where
  (leaseId admissionId dispatchId admissionDigest : String)
  (executionId workspaceId environment : String)
  (executionCapsuleDigest runnerClass : String)
  /-- Number of the lease among those of its admission. -/
  executionEpoch : Int
  /-- Start and end of the lease. -/
  (acquiredAt expiresAt : String)
  /-- Clock witness of the start. -/
  clockWitnessDigest : String
  /-- Clock witness of the start. -/
  clockWitness : Json
  (leaseRevision leaseDigest : String)
  lease : Json
deriving DecidableEq

inductive EpochStatus where
  | active
  | completed
deriving DecidableEq, Repr

/-- A row of `execution_epoch_state_v1`. -/
structure ExecutionEpochStateRow where
  /-- The admission and what it binds. -/
  (admissionId admissionDigest executionId workspaceId environment : String)
  (executionCapsuleDigest runnerClass : String)
  /-- Number of the current lease. -/
  currentEpoch : Int
  (currentLeaseId currentLeaseDigest currentLeaseAcquiredAt currentLeaseExpiresAt : String)
  /-- Current status. -/
  status : EpochStatus
  /-- Digest and time of the completion. -/
  (completionDigest completedAt : Option String)
  completionClockWitnessDigest : Option String
  completionClockWitness : Option Json
  /-- Revision of the authority and time of the last update. -/
  (authorityRevision updatedAt : String)
deriving DecidableEq

/-- A row of `verification_results_v1`. -/
structure VerificationResultRow where
  executionId : String
  executionEpoch : Int
  (targetDigest runnerObservationDigest verifierObservationDigest : String)
  (observedPostStateDigest verificationBoundaryDigest : String)
  (verifierId verifierIdentityDigest : String)
  (verificationStrengthDigest verificationStrengthClass : String)
  (verdict reason checkedAt resultRevision resultDigest : String)
  result : Json
deriving DecidableEq

/-- A row of `external_identity_bindings`. -/
structure ExternalIdentityBindingRow where
  id : String
  /-- The external identity. -/
  (provider issuer subject : String)
  /-- The account. -/
  userId : String
  active : Bool
  createdAt : String
  disabledAt : Option String
deriving DecidableEq

/-- A row of `active_sessions`. -/
structure ActiveSessionRow where
  (sessionReference userId : String)
  (issuedAt expiresAt : Int)
deriving DecidableEq

structure Database where
  users : List UserRow
  workspaces : List WorkspaceRow
  workspaceMemberships : List WorkspaceMembershipRow
  changeRequests : List ChangeRequestRow
  approvals : List ApprovalRow
  executions : List ExecutionRow
  receipts : List ReceiptRow
  auditEvents : List AuditEventRow
  runtimeFlags : List RuntimeFlagRow
  authorizationSnapshots : List AuthorizationSnapshotRow
  /-- `execution_grants_v2`. -/
  executionGrants : List ExecutionGrantRow
  /-- `grant_consumptions_v1`. -/
  grantConsumptions : List GrantConsumptionRow
  /-- `dispatch_outbox_v1`. -/
  dispatchOutbox : List DispatchOutboxRow
  /-- `dispatch_inbox_v1`. -/
  dispatchInbox : List DispatchInboxRow
  /-- `execution_leases_v1`. -/
  executionLeases : List ExecutionLeaseRow
  /-- `execution_epoch_state_v1`. -/
  executionEpochState : List ExecutionEpochStateRow
  /-- `verification_results_v1`. -/
  verificationResults : List VerificationResultRow
  externalIdentityBindings : List ExternalIdentityBindingRow
  activeSessions : List ActiveSessionRow
deriving DecidableEq

namespace Database

def empty : Database :=
  ⟨[], [], [], [], [], [], [], [], [], [], [], [], [], [], [], [], [], [], []⟩

/-- The database with another `users` table. -/
@[simps] def setUsers (db : Database) (rows : List UserRow) : Database :=
  { db with users := rows }

@[simps] def setWorkspaces (db : Database) (rows : List WorkspaceRow) : Database :=
  { db with workspaces := rows }

@[simps] def setWorkspaceMemberships (db : Database) (rows : List WorkspaceMembershipRow) :
    Database :=
  { db with workspaceMemberships := rows }

@[simps] def setChangeRequests (db : Database) (rows : List ChangeRequestRow) : Database :=
  { db with changeRequests := rows }

@[simps] def setApprovals (db : Database) (rows : List ApprovalRow) : Database :=
  { db with approvals := rows }

@[simps] def setExecutions (db : Database) (rows : List ExecutionRow) : Database :=
  { db with executions := rows }

@[simps] def setReceipts (db : Database) (rows : List ReceiptRow) : Database :=
  { db with receipts := rows }

@[simps] def setAuditEvents (db : Database) (rows : List AuditEventRow) : Database :=
  { db with auditEvents := rows }

@[simps] def setRuntimeFlags (db : Database) (rows : List RuntimeFlagRow) : Database :=
  { db with runtimeFlags := rows }

@[simps] def setAuthorizationSnapshots (db : Database) (rows : List AuthorizationSnapshotRow) :
    Database :=
  { db with authorizationSnapshots := rows }

@[simps] def setExecutionGrants (db : Database) (rows : List ExecutionGrantRow) : Database :=
  { db with executionGrants := rows }

@[simps] def setGrantConsumptions (db : Database) (rows : List GrantConsumptionRow) : Database :=
  { db with grantConsumptions := rows }

@[simps] def setDispatchOutbox (db : Database) (rows : List DispatchOutboxRow) : Database :=
  { db with dispatchOutbox := rows }

@[simps] def setDispatchInbox (db : Database) (rows : List DispatchInboxRow) : Database :=
  { db with dispatchInbox := rows }

@[simps] def setExecutionLeases (db : Database) (rows : List ExecutionLeaseRow) : Database :=
  { db with executionLeases := rows }

@[simps] def setExecutionEpochState (db : Database) (rows : List ExecutionEpochStateRow) :
    Database :=
  { db with executionEpochState := rows }

@[simps] def setVerificationResults (db : Database) (rows : List VerificationResultRow) :
    Database :=
  { db with verificationResults := rows }

@[simps] def setExternalIdentityBindings (db : Database) (rows : List ExternalIdentityBindingRow) :
    Database :=
  { db with externalIdentityBindings := rows }

@[simps] def setActiveSessions (db : Database) (rows : List ActiveSessionRow) : Database :=
  { db with activeSessions := rows }

end Database

end VoodooOne
