import VoodooOne.Authorization.Snapshot
import VoodooOne.Evidence.Chain
import VoodooOne.Library.Transaction
import VoodooOne.Schema.Changes

/-!
# Stored snapshots

A snapshot is stored under an idempotency key.  A key that is taken is answered with the stored
snapshot when its binding is the same, and refused otherwise.
-/

namespace VoodooOne

def AuthorizationSnapshot.row (sha256 : String → String) (snapshot : AuthorizationSnapshot)
    (idempotencyKey createdAt : String) : AuthorizationSnapshotRow where
  id := snapshot.snapshotId
  executionId := snapshot.executionId
  requestId := snapshot.requestId
  actorId := snapshot.actorId
  workspaceId := snapshot.workspaceId
  environment := snapshot.environment
  reviewContentSha256 := snapshot.reviewContentSha256
  idempotencyKey
  idempotencyBindingDigest := snapshot.idempotencyBindingDigest sha256
  snapshotDigest := snapshot.snapshotDigest
  snapshot := snapshot.toDict
  executionTarget := snapshot.executionTarget.toDict
  approvalEvidence := snapshot.approvalEvidence.toDict
  createdAt

/-- What a call that stores a snapshot draws from outside. -/
structure SnapshotSupplies where
  createdAt : String
  (createStamp witnessStamp : Stamp)

namespace AuthorizationSnapshotStore

variable (sha256 : String → String)

/-- Names of the bindings of a row and a snapshot that differ. -/
def rowMismatches (row : AuthorizationSnapshotRow) (snapshot : AuthorizationSnapshot) :
    List String :=
  ([("id", row.id, snapshot.snapshotId),
    ("execution_id", row.executionId, snapshot.executionId),
    ("request_id", row.requestId, snapshot.requestId),
    ("actor_id", row.actorId, snapshot.actorId),
    ("workspace_id", row.workspaceId, snapshot.workspaceId),
    ("environment", row.environment, snapshot.environment),
    ("review_content_sha256", row.reviewContentSha256, snapshot.reviewContentSha256),
    ("idempotency_binding_digest", row.idempotencyBindingDigest,
      snapshot.idempotencyBindingDigest sha256),
    ("snapshot_digest", row.snapshotDigest, snapshot.snapshotDigest)].filter fun binding =>
      binding.2.1 ≠ binding.2.2).map Prod.fst

def decode (row : AuthorizationSnapshotRow) : Except Raised AuthorizationSnapshot := do
  raiseIf (row.snapshot.keys = none)
    ⟨.runtimeError, "authorization snapshot storage is invalid"⟩
  raiseIf (row.executionTarget.keys = none ∨ row.approvalEvidence.keys = none)
    ⟨.runtimeError, "authorization snapshot child storage is invalid"⟩
  let target ← ExecutionTarget.fromDict sha256 row.executionTarget
  let approvalEvidence ← ApprovalEvidenceSet.fromDict sha256 row.approvalEvidence
  let snapshot ← AuthorizationSnapshot.fromDict sha256 row.snapshot target approvalEvidence
  let mismatches := rowMismatches sha256 row snapshot
  raiseIf (mismatches ≠ []) ⟨.runtimeError, "authorization snapshot storage bindings mismatch: " ++
    reprNames (sortedNames mismatches)⟩
  return snapshot

def get (db : Database) (snapshotId : String) : Except Raised AuthorizationSnapshot := do
  let snapshotId ← requireText (.str snapshotId) "snapshot_id"
  let row ← orRaise ⟨.lookupError, "authorization snapshot not found"⟩
    (Table.lookup (·.id) db.authorizationSnapshots snapshotId)
  decode sha256 row

def requireRequestBinding (snapshot : AuthorizationSnapshot) (request : Option ChangeRequestRow) :
    Except Raised Unit := do
  let request ← orRaise ⟨.authorizationSnapshotSourceError, "change request not found"⟩ request
  raiseIf (request.status ≠ .approved) ⟨.authorizationSnapshotSourceError,
    "change request is not in an approved immutable-review state"⟩
  let mismatches := ([("workspace_id", request.workspaceId, snapshot.workspaceId),
    ("environment", request.environment, snapshot.environment),
    ("review_content_sha256", request.reviewContentSha256.getD "None",
      snapshot.reviewContentSha256)].filter fun binding => binding.2.1 ≠ binding.2.2).map Prod.fst
  raiseIf (mismatches ≠ []) ⟨.authorizationSnapshotSourceError,
    "change request snapshot bindings mismatch: " ++ reprNames (sortedNames mismatches)⟩

def createEntry (snapshot : AuthorizationSnapshot) (correlationId : String) : AuditEntry where
  actorId := snapshot.actorId
  action := "authorization_snapshot.create"
  targetType := "authorization_snapshot"
  targetId := snapshot.snapshotId
  payload := .object [("correlation_id", .str correlationId),
    ("snapshot_digest", .str snapshot.snapshotDigest),
    ("execution_id", .str snapshot.executionId),
    ("request_id", .str snapshot.requestId),
    ("review_content_sha256", .str snapshot.reviewContentSha256),
    ("workspace_id", .str snapshot.workspaceId),
    ("environment", .str snapshot.environment),
    ("payload_digest", .str snapshot.payloadDigest),
    ("payload_digest_scheme", .str snapshot.payloadDigestScheme),
    ("target_kind", .str snapshot.targetKind),
    ("target_digest", .str snapshot.targetDigest),
    ("capability", .str snapshot.capability),
    ("capability_definition_identity", .str snapshot.capabilityDefinitionIdentity),
    ("policy_version", .str snapshot.policyVersion),
    ("policy_identity", .str snapshot.policyIdentity),
    ("approval_set_digest", .str snapshot.approvalSetDigest),
    ("approval_valid_until", .str snapshot.approvalValidUntil),
    ("issuance_timestamp_source_identity", .str snapshot.issuanceTimestampSourceIdentity),
    ("authorized_at", .str snapshot.authorizedAt),
    ("authorization_source_revision", .str snapshot.authorizationSourceRevision)]

/-- The exception of a key that is bound to another authorization. -/
def bindingConflict : Raised := ⟨.authorizationSnapshotConflict,
  "idempotency key is bound to different authorization inputs"⟩

/-- `persist_prevalidated_on_connection`. -/
def persist (supplies : SnapshotSupplies) (snapshot : AuthorizationSnapshot)
    (idempotencyKey correlationId : String) (db : Database) :
    Except Raised (AuthorizationSnapshot × Database) := do
  let idempotencyKey ← requireText (.str idempotencyKey) "idempotency_key"
  let correlationId ← requireText (.str correlationId) "correlation_id"
  match Table.lookup (·.idempotencyKey) db.authorizationSnapshots idempotencyKey with
  | some existing => do
      raiseIf (existing.idempotencyBindingDigest ≠ snapshot.idempotencyBindingDigest sha256)
        bindingConflict
      let stored ← decode sha256 existing
      return (stored, db)
  | none => do
      requireRequestBinding snapshot
        (Table.lookup (·.id) db.changeRequests snapshot.requestId)
      let inserted ← catching [.databaseIntegrityError] ⟨.authorizationSnapshotConflict,
        "authorization snapshot immutable identity conflicts"⟩
        (db.insertAuthorizationSnapshot (snapshot.row sha256 idempotencyKey supplies.createdAt))
      let audited ← inserted.appendAudit sha256 supplies.createStamp
        (createEntry snapshot correlationId)
      return (snapshot, audited)

variable {sha256}

theorem decode_row {snapshot : AuthorizationSnapshot} (created : snapshot.Created sha256)
    (idempotencyKey createdAt : String) :
    decode sha256 (snapshot.row sha256 idempotencyKey createdAt) = .ok snapshot := by
  have matched : rowMismatches sha256 (snapshot.row sha256 idempotencyKey createdAt) snapshot =
      [] := by
    simp [rowMismatches, AuthorizationSnapshot.row]
  simp only [decode, bind_eq_ok, raiseIf_eq_ok, pure_eq_ok]
  refine ⟨(), Option.some_ne_none _, (), ?_, _, created.2.1.fromDict_toDict, _,
    created.2.2.fromDict_toDict, _, created.fromDict_toDict, (), not_not.mpr matched, rfl⟩
  rintro (missing | missing)
  · exact Option.some_ne_none _ missing
  · exact Option.some_ne_none _ missing

theorem persist_fresh {supplies : SnapshotSupplies} {snapshot stored : AuthorizationSnapshot}
    {idempotencyKey correlationId : String} {db next : Database}
    (unused : Table.lookup (·.idempotencyKey) db.authorizationSnapshots idempotencyKey = none)
    (returned : persist sha256 supplies snapshot idempotencyKey correlationId db =
      .ok (stored, next)) :
    stored = snapshot ∧ ∃ inserted,
      inserted = db.setAuthorizationSnapshots
        (db.authorizationSnapshots ++ [snapshot.row sha256 idempotencyKey supplies.createdAt]) ∧
      (snapshot.row sha256 idempotencyKey supplies.createdAt).Fresh db ∧
      next = inserted.setAuditEvents (inserted.auditEvents ++
        [inserted.auditRow sha256 supplies.createStamp (createEntry snapshot correlationId)]) := by
  simp only [persist, bind_eq_ok, requireText_eq_ok, Json.str.injEq] at returned
  obtain ⟨_, ⟨rfl, -⟩, _, ⟨rfl, -⟩, returned⟩ := returned
  rw [unused] at returned
  simp only [bind_eq_ok, catching_eq_ok, pure_eq_ok, Prod.mk.injEq] at returned
  obtain ⟨_, -, _, stored', _, audited, rfl, rfl⟩ := returned
  obtain ⟨rfl, fresh⟩ := Database.insertAuthorizationSnapshot_eq_ok stored'
  obtain ⟨rfl, -⟩ := Database.appendAudit_eq_ok audited
  exact ⟨rfl, _, rfl, fresh, rfl⟩

theorem persist_taken {supplies : SnapshotSupplies} {snapshot stored : AuthorizationSnapshot}
    {idempotencyKey correlationId createdAt : String} {db : Database}
    (created : stored.Created sha256)
    (found : Table.lookup (·.idempotencyKey) db.authorizationSnapshots idempotencyKey =
      some (stored.row sha256 idempotencyKey createdAt))
    (key : ValidText idempotencyKey) (correlation : ValidText correlationId) :
    persist sha256 supplies snapshot idempotencyKey correlationId db =
      if snapshot.idempotencyBindingDigest sha256 = stored.idempotencyBindingDigest sha256 then
        .ok (stored, db)
      else .error bindingConflict := by
  have keyed : requireText (.str idempotencyKey) "idempotency_key" = .ok idempotencyKey :=
    requireText_eq_ok.mpr ⟨rfl, key⟩
  have correlated : requireText (.str correlationId) "correlation_id" = .ok correlationId :=
    requireText_eq_ok.mpr ⟨rfl, correlation⟩
  have binding : (stored.row sha256 idempotencyKey createdAt).idempotencyBindingDigest =
      stored.idempotencyBindingDigest sha256 := rfl
  rw [persist, keyed, ok_bind, correlated, ok_bind, found]
  dsimp only
  rw [binding]
  by_cases same : snapshot.idempotencyBindingDigest sha256 = stored.idempotencyBindingDigest sha256
  · rw [if_pos same, raiseIf, if_neg (not_not.mpr same.symm), ok_bind, decode_row created]
    rfl
  · rw [if_neg same, raiseIf, if_pos (Ne.symm same)]
    rfl

end AuthorizationSnapshotStore

end VoodooOne
