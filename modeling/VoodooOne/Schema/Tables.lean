import VoodooOne.Foundation.Clock
import VoodooOne.Library.Table
import VoodooOne.Schema.Rows

/-!
# Tables

The column checks that several tables share, the exception of a violated constraint, and the tables
of authorization snapshots, deliveries, workspaces and verification results.
-/

namespace VoodooOne

/-- The exception of a violated constraint or trigger. -/
def integrityError : Raised := ⟨.databaseIntegrityError, "database integrity constraint failed"⟩

/-- The exception of an integer that no SQLite column holds. -/
def integerTooLarge : Raised := ⟨.overflowError,
    "Python int too large to convert to SQLite INTEGER"⟩

def maxInteger : Int := 9223372036854775807

/-- `CHECK(length(column) > 0)`. -/
abbrev NonEmpty (text : String) : Prop := 0 < text.length

/-- `CHECK(length(column) > 2)` on a JSON column. -/
abbrev JsonColumn (value : Json) : Prop := 2 < (canonicalJson value).length

/-- `CHECK(environment IN (...))`. -/
abbrev EnvironmentColumn (environment : String) : Prop := environment ∈ validEnvironments

namespace Database

/-- `REFERENCES workspaces(id)`. -/
abbrev HasWorkspace (db : Database) (id : String) : Prop := ∃ row ∈ db.workspaces, row.id = id

/-- `REFERENCES users(id)`. -/
abbrev HasUser (db : Database) (id : String) : Prop := ∃ row ∈ db.users, row.id = id

/-- `REFERENCES change_requests(id)`. -/
abbrev HasChangeRequest (db : Database) (id : String) : Prop :=
  ∃ row ∈ db.changeRequests, row.id = id

end Database

namespace AuthorizationSnapshotRow

abbrev Checks (row : AuthorizationSnapshotRow) : Prop :=
  EnvironmentColumn row.environment ∧ IsDigest row.reviewContentSha256 ∧
    IsDigest row.idempotencyBindingDigest ∧ IsDigest row.snapshotDigest

abbrev Fresh (row : AuthorizationSnapshotRow) (db : Database) : Prop :=
  ∀ other ∈ db.authorizationSnapshots, other.id ≠ row.id ∧ other.executionId ≠ row.executionId ∧
    other.idempotencyKey ≠ row.idempotencyKey ∧ other.snapshotDigest ≠ row.snapshotDigest

/-- `trg_authorization_snapshots_request_binding_insert`. -/
abbrev Bound (row : AuthorizationSnapshotRow) (db : Database) : Prop :=
  ∃ request ∈ db.changeRequests, request.id = row.requestId ∧ request.status = .approved ∧
    request.workspaceId = row.workspaceId ∧ request.environment = row.environment ∧
    request.reviewContentSha256 = some row.reviewContentSha256 ∧
    ∃ workspace ∈ db.workspaces, workspace.id = request.workspaceId ∧
      workspace.environment = row.environment

end AuthorizationSnapshotRow

/-- `authorization_snapshots.insert`; the binding implies the references to request and
workspace. -/
def Database.insertAuthorizationSnapshot (db : Database) (row : AuthorizationSnapshotRow) :
    Except Raised Database := do
  raiseIf (¬row.Bound db) integrityError
  raiseIf (¬row.Checks) integrityError
  raiseIf (¬row.Fresh db) integrityError
  raiseIf (¬db.HasUser row.actorId) integrityError
  return db.setAuthorizationSnapshots (db.authorizationSnapshots ++ [row])

theorem Database.insertAuthorizationSnapshot_eq_ok {db next : Database}
    {row : AuthorizationSnapshotRow} (inserted : db.insertAuthorizationSnapshot row = .ok next) :
    next = db.setAuthorizationSnapshots (db.authorizationSnapshots ++ [row]) ∧ row.Fresh db := by
  simp only [Database.insertAuthorizationSnapshot, bind_eq_ok, raiseIf_eq_ok, not_not, pure_eq_ok]
    at inserted
  obtain ⟨_, _, _, _, _, fresh, _, _, rfl⟩ := inserted
  exact ⟨rfl, fresh⟩

namespace DispatchInboxRow

abbrev Checks (row : DispatchInboxRow) : Prop :=
  IsDigest row.admissionId ∧ IsDigest row.dispatchId ∧ IsDigest row.envelopeDigest ∧
    EnvironmentColumn row.environment ∧ IsDigest row.executionCapsuleDigest ∧
    NonEmpty row.runnerClass ∧ NonEmpty row.admissionRevision ∧ IsDigest row.admissionDigest ∧
    JsonColumn row.admission

abbrev Fresh (row : DispatchInboxRow) (db : Database) : Prop :=
  ∀ other ∈ db.dispatchInbox, other.admissionId ≠ row.admissionId ∧
    other.dispatchId ≠ row.dispatchId ∧ other.outboxId ≠ row.outboxId ∧
    other.outboxEntryDigest ≠ row.outboxEntryDigest ∧
    other.admissionDigest ≠ row.admissionDigest

/-- The admission repeats an outbox row in every column the two tables share. -/
abbrev Admits (row : DispatchInboxRow) (outbox : DispatchOutboxRow) : Prop :=
  outbox.outboxId = row.outboxId ∧ outbox.entryDigest = row.outboxEntryDigest ∧
    outbox.executionId = row.executionId ∧ outbox.workspaceId = row.workspaceId ∧
    outbox.environment = row.environment ∧
    outbox.executionCapsuleDigest = row.executionCapsuleDigest ∧
    outbox.runnerClass = row.runnerClass

/-- `trg_dispatch_inbox_v1_outbox_binding_insert`, which implies both references to the outbox. -/
abbrev Bound (row : DispatchInboxRow) (db : Database) : Prop :=
  ∃ outbox ∈ db.dispatchOutbox, row.Admits outbox

end DispatchInboxRow

/-- `dispatch_inbox.insert`. -/
def Database.insertDispatchInbox (db : Database) (row : DispatchInboxRow) :
    Except Raised Database := do
  raiseIf (¬row.Checks) integrityError
  raiseIf (¬row.Fresh db) integrityError
  raiseIf (¬row.Bound db) integrityError
  raiseIf (¬db.HasWorkspace row.workspaceId) integrityError
  return db.setDispatchInbox (db.dispatchInbox ++ [row])

theorem Database.insertDispatchInbox_eq_ok {db next : Database} {row : DispatchInboxRow}
    (inserted : db.insertDispatchInbox row = .ok next) :
    next = db.setDispatchInbox (db.dispatchInbox ++ [row]) ∧ row.Fresh db ∧ row.Bound db := by
  simp only [Database.insertDispatchInbox, bind_eq_ok, raiseIf_eq_ok, not_not, pure_eq_ok]
    at inserted
  obtain ⟨_, _, _, fresh, _, bound, _, _, rfl⟩ := inserted
  exact ⟨rfl, fresh, bound⟩

abbrev WorkspaceMembershipRow.key (row : WorkspaceMembershipRow) : String × String :=
  (row.workspaceId, row.userId)

namespace Database

/-- `workspaces.insert`. -/
def insertWorkspace (db : Database) (row : WorkspaceRow) : Except Raised Database := do
  raiseIf (¬EnvironmentColumn row.environment) integrityError
  raiseIf (∃ other ∈ db.workspaces, other.id = row.id ∨ other.name = row.name) integrityError
  return db.setWorkspaces (db.workspaces ++ [row])

/-- `workspace_memberships.select`. -/
def selectMembership (db : Database) (workspaceId userId : String) :
    Option WorkspaceMembershipRow :=
  Table.lookup (·.key) db.workspaceMemberships (workspaceId, userId)

/-- `workspace_memberships.insert`. -/
def insertMembership (db : Database) (row : WorkspaceMembershipRow) : Except Raised Database := do
  raiseIf (row.membershipRole ∉ ["owner", "member"]) integrityError
  raiseIf (∃ other ∈ db.workspaceMemberships, other.key = row.key) integrityError
  raiseIf (¬(db.HasWorkspace row.workspaceId ∧ db.HasUser row.userId ∧ db.HasUser row.createdBy))
    integrityError
  return db.setWorkspaceMemberships (db.workspaceMemberships ++ [row])

def countOwners (db : Database) (workspaceId : String) : Nat :=
  db.workspaceMemberships.countP fun row =>
    row.workspaceId = workspaceId ∧ row.membershipRole = "owner"

/-- `workspace_memberships.delete`: the deleted row and the next database. -/
def deleteMembership (db : Database) (workspaceId userId : String) :
    Option WorkspaceMembershipRow × Database :=
  (db.selectMembership workspaceId userId, db.setWorkspaceMemberships
    (db.workspaceMemberships.filter (·.key ≠ (workspaceId, userId))))

theorem insertWorkspace_eq_ok {db next : Database} {row : WorkspaceRow}
    (inserted : db.insertWorkspace row = .ok next) :
    next = db.setWorkspaces (db.workspaces ++ [row]) ∧ ∀ other ∈ db.workspaces, other.id ≠
      row.id := by
  simp only [insertWorkspace, bind_eq_ok, raiseIf_eq_ok, pure_eq_ok] at inserted
  obtain ⟨_, -, _, fresh, rfl⟩ := inserted
  exact ⟨rfl, fun other member same => fresh ⟨other, member, .inl same⟩⟩

theorem insertMembership_eq_ok {db next : Database} {row : WorkspaceMembershipRow}
    (inserted : db.insertMembership row = .ok next) :
    next = db.setWorkspaceMemberships (db.workspaceMemberships ++ [row]) ∧
      ∀ other ∈ db.workspaceMemberships, other.key ≠ row.key := by
  simp only [insertMembership, bind_eq_ok, raiseIf_eq_ok, pure_eq_ok] at inserted
  obtain ⟨_, -, _, fresh, _, -, rfl⟩ := inserted
  exact ⟨rfl, fun other member same => fresh ⟨other, member, same⟩⟩

end Database

namespace VerificationResultRow

abbrev Checks (row : VerificationResultRow) : Prop :=
  1 ≤ row.executionEpoch ∧ IsDigest row.targetDigest ∧ IsDigest row.runnerObservationDigest ∧
    IsDigest row.verifierObservationDigest ∧ IsDigest row.observedPostStateDigest ∧
    IsDigest row.verificationBoundaryDigest ∧ IsDigest row.verifierId ∧
    IsDigest row.verifierIdentityDigest ∧ IsDigest row.verificationStrengthDigest ∧
    row.verificationStrengthClass = "INDEPENDENT_PROVIDER_READBACK" ∧
    NonEmpty row.checkedAt ∧ NonEmpty row.resultRevision ∧ IsDigest row.resultDigest ∧
    JsonColumn row.result ∧
    ((row.verdict = "VERIFIED" ∧ row.reason = "OBSERVED_STATE_MATCH") ∨
      (row.verdict = "NOT_VERIFIED" ∧ row.reason = "OBSERVED_STATE_MISMATCH"))

abbrev Fresh (row : VerificationResultRow) (db : Database) : Prop :=
  ∀ other ∈ db.verificationResults, other.executionId ≠ row.executionId ∧
    other.resultDigest ≠ row.resultDigest

/-- The result names a target, and the epoch and digest of a completion. -/
abbrev Verifies (row : VerificationResultRow) (outbox : DispatchOutboxRow)
    (state : ExecutionEpochStateRow) : Prop :=
  outbox.executionId = row.executionId ∧ outbox.targetDigest = row.targetDigest ∧
    state.executionId = row.executionId ∧ state.currentEpoch = row.executionEpoch ∧
    state.status = .completed ∧ state.completionDigest = some row.runnerObservationDigest

/-- `trg_verification_results_v1_binding_insert`. -/
abbrev Bound (row : VerificationResultRow) (db : Database) : Prop :=
  ∃ outbox ∈ db.dispatchOutbox, ∃ state ∈ db.executionEpochState, row.Verifies outbox state

/-- `REFERENCES authorization_snapshots(execution_id)`. -/
abbrev HasSnapshot (row : VerificationResultRow) (db : Database) : Prop :=
  ∃ snapshot ∈ db.authorizationSnapshots, snapshot.executionId = row.executionId

end VerificationResultRow

/-- `verification_results.insert`. -/
def Database.insertVerificationResult (db : Database) (row : VerificationResultRow) :
    Except Raised Database := do
  raiseIf (maxInteger < row.executionEpoch) integerTooLarge
  raiseIf (¬row.Checks) integrityError
  raiseIf (¬row.Fresh db) integrityError
  raiseIf (¬row.Bound db) integrityError
  raiseIf (¬row.HasSnapshot db) integrityError
  return db.setVerificationResults (db.verificationResults ++ [row])

theorem Database.insertVerificationResult_eq_ok {db next : Database} {row : VerificationResultRow}
    (inserted : db.insertVerificationResult row = .ok next) :
    next = db.setVerificationResults (db.verificationResults ++ [row]) ∧ row.Fresh db ∧
      row.Bound db := by
  simp only [Database.insertVerificationResult, bind_eq_ok, raiseIf_eq_ok, not_not, pure_eq_ok]
    at inserted
  obtain ⟨_, -, _, -, _, fresh, _, bound, _, -, rfl⟩ := inserted
  exact ⟨rfl, fresh, bound⟩

end VoodooOne
