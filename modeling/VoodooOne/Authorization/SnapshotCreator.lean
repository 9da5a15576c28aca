import VoodooOne.Authorization.Authorities
import VoodooOne.Authorization.SnapshotStore
import VoodooOne.Change.Service
import VoodooOne.Grant.Service

/-!
# Creation of snapshots

A snapshot is created from the answers of every authority, inside the transaction that stores it.
The transaction that stores a new snapshot also appends the witness of these answers to the audit
log.
-/

namespace VoodooOne

open Calendar

/-- The exception of evidence that does not hold. -/
def evidenceError (message : String) : Raised := ⟨.runtimeError, message⟩

def canonicalDatetime (value field : String) : Except Raised Instant :=
  orRaise (evidenceError (field ++ " must use canonical UTC millisecond form"))
    (Instant.ofIsoformat? value)

/-- `_payload_digest`. -/
def payloadDigestOf (sha256 : String → String) (payload : Json) : String :=
  digestOf sha256 (.object [("schema_version", .int 1), ("binding_type", .str "request-payload/v1"),
    ("payload", payload)])

/-- The key of a row in `ORDER BY id, approver_id, created_at`. -/
def ApprovalRow.sortKey (row : ApprovalRow) : List String :=
  [row.id, row.approverId, row.createdAt]

/-- `approval_evidence.select_approvals`. -/
def Database.selectApprovalEvidence (db : Database) (requestId : String) : List ApprovalRow :=
  (db.approvals.filter (·.requestId = requestId)).insertionSort fun left right =>
    left.sortKey ≤ right.sortKey

def approvalOf (request : ChangeRequestRow) (reviewDigest : String) (policy : PolicyRevision)
    (authorizationTime : Instant) (row : ApprovalRow) :
    Except Raised (ApprovalRecord × Instant) := do
  raiseIf (row.decision ≠ .approved)
    (evidenceError "approval evidence contains a non-approved decision")
  raiseIf (row.reviewContentSha256 ≠ some reviewDigest)
    (evidenceError "approval evidence review content binding mismatch")
  raiseIf (row.approverId = request.requestedBy)
    ⟨.permissionError, "requester approval cannot satisfy authorization evidence"⟩
  let approvedAt ← canonicalDatetime row.createdAt "approval.created_at"
  raiseIf (authorizationTime < approvedAt)
    (evidenceError "approval evidence occurs after authorization time")
  let record ← ApprovalRecord.create (Json.object [("approval_id", .str row.id),
    ("approver_id", .str row.approverId), ("decision", .str "APPROVED"),
    ("approved_at", .str row.createdAt)]).get
  let deadline ← orRaise ⟨.overflowError, "date value out of range"⟩
    (approvedAt.later (policy.approvalValiditySeconds * 1000))
  return (record, deadline)

/-- `load_approval_evidence_on_connection`. -/
def loadApprovalEvidence (sha256 : String → String) (db : Database) (requestId capability : String)
    (target : ExecutionTarget) (policy : PolicyRevision) (clockWitness : ClockWitness) :
    Except Raised ApprovalEvidenceSet := do
  let (request, workspaceEnvironment) ← orRaise ⟨.lookupError, "change request not found"⟩
    (db.requestContext requestId)
  raiseIf (request.environment ≠ workspaceEnvironment)
    (evidenceError "change request environment does not match workspace")
  raiseIf (clockWitness.environment ≠ request.environment)
    (evidenceError "clock witness environment does not match change request")
  raiseIf (request.status ≠ .approved) (evidenceError "change request is not in approved state")
  raiseIf (request.payload.keys = none)
    (evidenceError "change request payload must be a JSON object")
  let reviewDigest ← orRaise (evidenceError "change request review content binding is missing")
    request.reviewContentSha256
  raiseIf (digestOf sha256 request.reviewSubject ≠ reviewDigest) (evidenceError
    "change request review content binding does not match persisted content")
  let rows := db.selectApprovalEvidence requestId
  raiseIf (rows = []) (evidenceError "approved change request has no approval evidence")
  let authorizationTime ← canonicalDatetime clockWitness.observedAt "clock_witness.observed_at"
  let approvals ← rows.mapM (approvalOf request reviewDigest policy authorizationTime)
  let required ← policy.requiredApprovalsFor request.environment
  raiseIf ((approvals.map (·.1.approverId)).dedup.length < required)
    ⟨.permissionError, "approval evidence does not satisfy policy quorum"⟩
  let validUntil ← orRaise (valueError "min() arg is an empty sequence")
    (approvals.map Prod.snd).min?
  raiseIf (validUntil ≤ authorizationTime) ⟨.permissionError, "approval evidence is expired"⟩
  ApprovalEvidenceSet.create sha256 (Json.object [("request_id", .str requestId),
    ("payload_digest", .str (payloadDigestOf sha256 request.payload)),
    ("target_digest", .str target.targetDigest), ("capability", .str capability),
    ("policy_version", .str policy.policyVersion),
    ("approval_valid_until", .str validUntil.isoformat)]).get (.ok (approvals.map Prod.fst))

theorem approvalOf_eq_ok {request : ChangeRequestRow} {reviewDigest : String}
    {policy : PolicyRevision} {authorizationTime : Instant} {row : ApprovalRow}
    {approval : ApprovalRecord × Instant}
    (loaded : approvalOf request reviewDigest policy authorizationTime row = .ok approval) :
    approval.1.Created := by
  simp only [approvalOf, bind_eq_ok, pure_eq_ok] at loaded
  obtain ⟨_, -, _, -, _, -, _, -, _, -, record, created, _, -, rfl⟩ := loaded
  exact ⟨_, created⟩

theorem mapM_approvalOf {request : ChangeRequestRow} {reviewDigest : String}
    {policy : PolicyRevision} {authorizationTime : Instant} {rows : List ApprovalRow}
    {approvals : List (ApprovalRecord × Instant)}
    (loaded : rows.mapM (approvalOf request reviewDigest policy authorizationTime) =
      .ok approvals) : ∀ approval ∈ approvals, approval.1.Created := by
  induction rows generalizing approvals with
  | nil =>
      obtain rfl := pure_eq_ok.mp loaded
      exact List.forall_mem_nil _
  | cons row rows induction =>
      simp only [List.mapM_cons, bind_eq_ok, pure_eq_ok] at loaded
      obtain ⟨first, one, rest, others, rfl⟩ := loaded
      exact List.forall_mem_cons.mpr ⟨approvalOf_eq_ok one, induction others⟩

theorem loadApprovalEvidence_eq_ok {sha256 : String → String} {db : Database}
    {requestId capability : String} {target : ExecutionTarget} {policy : PolicyRevision}
    {clockWitness : ClockWitness} {evidence : ApprovalEvidenceSet}
    (loaded : loadApprovalEvidence sha256 db requestId capability target policy clockWitness =
      .ok evidence) : evidence.Created sha256 := by
  simp only [loadApprovalEvidence, bind_eq_ok] at loaded
  obtain ⟨_, -, _, -, _, -, _, -, _, -, _, -, _, -, _, -, _, -, approvals, loadedAll, _, -, _, -, _,
    -, _, -, created⟩ := loaded
  refine ⟨⟨_, _, created⟩, fun record member => ?_⟩
  obtain ⟨-, ⟨supplied, same, ordered⟩, -⟩ := ApprovalEvidenceSet.create_eq_ok.mp created
  obtain rfl := Except.ok.inj same
  rw [ordered] at member
  obtain ⟨approval, there, rfl⟩ := List.mem_map.mp
    ((List.mem_insertionSort ApprovalRecord.Le).mp member)
  exact mapM_approvalOf loadedAll approval there

structure AuthoritativeSnapshotCreator (sha256 : String → String) where
  policies : List PolicyRevision
  policyVersion : String
  registry : CapabilityRegistry
  select : String → Except Raised CapabilitySelection
  binders : List (TargetBinder sha256)
  trustedClock : TrustedClockAuthority
  productionEffectsEnabled : Bool
  authorizationSourceRevision : String

/-- What one call meets outside the database; a permission of `none` is an answer that is no
decision. -/
structure SnapshotSurroundings where
  permission : Database → PermissionQuery → Except Raised (Option PermissionDecision)
  reading : ClockReading
  currentEpoch : RevocationEpochAuthority
  (snapshotId executionId : String)
  supplies : SnapshotSupplies

namespace AuthoritativeSnapshotCreator

/-- `_deny`. -/
def denied (reason : String) : Raised := ⟨.snapshotAuthorizationDenied, reason⟩

def authorityErrors : List ExceptionClass :=
  [.lookupError, .permissionError, .runtimeError, .valueError]

/-- `_validated_request`; the second component is the review digest. -/
def validatedRequest (sha256 : String → String) (db : Database) (requestId : String) :
    Except Raised (ChangeRequestRow × String) := do
  let (request, workspaceEnvironment) ← orRaise (denied "CHANGE_REQUEST_NOT_FOUND")
    (db.requestContext requestId)
  raiseIf (request.status ≠ .approved) (denied "CHANGE_REQUEST_NOT_APPROVED")
  raiseIf (request.environment ≠ workspaceEnvironment) (denied "WORKSPACE_ENVIRONMENT_MISMATCH")
  let reviewDigest ← orRaise (denied "REVIEW_CONTENT_BINDING_MISSING")
    (request.reviewContentSha256.filter (· ≠ ""))
  raiseIf (request.payload.keys = none) (denied "REQUEST_PAYLOAD_INVALID")
  raiseIf (reviewDigest ≠ digestOf sha256 request.reviewSubject) (denied "REVIEW_CONTENT_DRIFT")
  return (request, reviewDigest)

/-- What an authorization leads to: a snapshot, the selected capability and the witnesses. -/
structure Authorization where
  snapshot : AuthorizationSnapshot
  selection : CapabilitySelection
  witnesses : AuthorityWitnessSet

variable {sha256 : String → String} (creator : AuthoritativeSnapshotCreator sha256)
  (surroundings : SnapshotSurroundings)

def selectCapability (adapter : String) : Except Raised CapabilitySelection := do
  let selection ← catching authorityErrors (denied "CAPABILITY_SELECTION_NOT_FOUND")
    (creator.select adapter)
  raiseIf (selection.adapter ≠ adapter) (denied "CAPABILITY_SELECTION_MISMATCH")
  return selection

def resolveClock (environment : String) : Except Raised ClockWitness := do
  let witness ← catching authorityErrors (denied "TRUSTED_CLOCK_DENIED")
    (creator.trustedClock.witness sha256 environment surroundings.reading)
  raiseIf (witness.sourceIdentity ≠ creator.trustedClock.sourceIdentity)
    (denied "TRUSTED_CLOCK_BINDING_MISMATCH")
  return witness

def resolvePermission (db : Database) (actorId workspaceId environment : String) :
    Except Raised PermissionDecision := do
  let query : PermissionQuery := ⟨actorId, workspaceId, environment, requiredExecutionPermission⟩
  query.postInit
  let answer ← catching authorityErrors (denied "EXECUTION_PERMISSION_DENIED")
    (surroundings.permission db query)
  let decision ← orRaise (denied "PERMISSION_DECISION_INVALID") answer
  raiseIf ([decision.actorId, decision.workspaceId, decision.environment, decision.permission] ≠
      [actorId, workspaceId, environment, requiredExecutionPermission])
    (denied "PERMISSION_DECISION_BINDING_MISMATCH")
  raiseIf (decision.granted = false) (denied "EXECUTION_PERMISSION_DENIED")
  return decision

def resolveRevocationEpoch (db : Database)
    (workspaceId environment capabilityDefinitionIdentity : String) : Except Raised Int := do
  let answer ← catching authorityErrors (denied "REVOCATION_DENIED")
    (surroundings.currentEpoch db workspaceId environment capabilityDefinitionIdentity)
  DurableGrantService.epochAnswer (denied "REVOCATION_EPOCH_INVALID") answer

def attributes (request : ChangeRequestRow) (actorId requestId reviewDigest : String)
    (definition : CapabilityDefinition) (binding : TargetBinding) (policy : PolicyRevision)
    (clockWitness : ClockWitness) (evidence : ApprovalEvidenceSet) : List (String × Json) :=
  [("snapshot_id", .str surroundings.snapshotId),
    ("execution_id", .str surroundings.executionId),
    ("request_id", .str requestId),
    ("review_content_sha256", .str reviewDigest),
    ("actor_id", .str actorId),
    ("workspace_id", .str request.workspaceId),
    ("environment", .str request.environment),
    ("capability", .str definition.capability),
    ("capability_definition_identity", .str definition.definitionIdentity),
    ("payload_digest", .str evidence.payloadDigest),
    ("payload_digest_scheme", .str payloadDigestScheme),
    ("execution_target_identity", .str binding.target.targetDigest),
    ("policy_version", .str policy.policyVersion),
    ("policy_identity", .str policy.policyIdentity),
    ("approval_evidence_identity", .str evidence.approvalSetDigest),
    ("issuance_timestamp_source_identity", .str clockWitness.sourceIdentity),
    ("authorized_at", .str clockWitness.observedAt),
    ("authorization_source_revision", .str creator.authorizationSourceRevision)]

/-- `_create_in_transaction` up to the snapshot. -/
def authorize (actorId requestId : String) (db : Database) : Except Raised Authorization := do
  let (request, reviewDigest) ← validatedRequest sha256 db requestId
  raiseIf (request.environment = "production" ∧ creator.productionEffectsEnabled = false)
    (denied "PRODUCTION_EFFECTS_DISABLED")
  raiseIf (db.emergencyStopActive = true) (denied "EMERGENCY_STOP_ACTIVE")
  let selection ← creator.selectCapability request.adapter
  let (definition, activation) ← catching authorityErrors (denied "CAPABILITY_INELIGIBLE")
    (creator.registry.resolveForExecution selection.capability request.environment)
  let binding ← catching authorityErrors (denied "TARGET_BINDING_DENIED")
    (bindTarget sha256 creator.binders definition request.payload)
  let policy ← catching authorityErrors (denied "POLICY_REVISION_NOT_FOUND")
    (resolvePolicy creator.policies creator.policyVersion)
  let clockWitness ← creator.resolveClock surroundings request.environment
  let evidence ← catching authorityErrors (denied "APPROVAL_EVIDENCE_DENIED")
    (loadApprovalEvidence sha256 db requestId definition.capability binding.target policy
      clockWitness)
  let certificate ← ApprovalCertificate.create sha256 reviewDigest policy evidence
  let decision ← resolvePermission surroundings db actorId request.workspaceId request.environment
  let epoch ← resolveRevocationEpoch surroundings db request.workspaceId request.environment
    definition.definitionIdentity
  let witnesses ← catching [.permissionError, .valueError] (denied "AUTHORITY_WITNESS_INVALID")
    (AuthorityWitnessSet.create sha256 decision policy definition activation binding certificate
      clockWitness epoch)
  let snapshot ← AuthorizationSnapshot.create sha256 (Json.object (creator.attributes surroundings
    request actorId requestId reviewDigest definition binding policy clockWitness evidence)).get
    binding.target evidence
  return ⟨snapshot, selection, witnesses⟩

def witnessAction : String := "authorization_snapshot.authority_witness"

/-- The event of `_append_authority_witness_audit`. -/
def witnessEntry (snapshot : AuthorizationSnapshot) (correlationId : String)
    (selection : CapabilitySelection) (witnesses : AuthorityWitnessSet) : AuditEntry where
  actorId := snapshot.actorId
  action := witnessAction
  targetType := "authorization_snapshot"
  targetId := snapshot.snapshotId
  payload := .object [("correlation_id", .str correlationId),
    ("snapshot_digest", .str snapshot.snapshotDigest),
    ("authority_witness_set_digest", .str witnesses.witnessSetDigest),
    ("permission_decision_digest", .str witnesses.permissionDecisionDigest),
    ("capability_selection_digest", .str selection.selectionDigest),
    ("capability_selection_authority_revision", .str selection.authorityRevision),
    ("policy_identity", .str witnesses.policyIdentity),
    ("capability_definition_identity", .str witnesses.capabilityDefinitionIdentity),
    ("capability_activation_digest", .str witnesses.capabilityActivationDigest),
    ("target_binding_digest", .str witnesses.targetBindingDigest),
    ("approval_certificate_digest", .str witnesses.approvalCertificateDigest),
    ("clock_witness_digest", .str witnesses.clockWitnessDigest),
    ("revocation_epoch", .int witnesses.revocationEpoch),
    ("authorization_source_revision", .str snapshot.authorizationSourceRevision)]

/-- The part of `_create_in_transaction` that stores a snapshot. -/
def store (sha256 : String → String) (surroundings : SnapshotSurroundings)
    (idempotencyKey correlationId : String) (authorization : Authorization) (db : Database) :
    Except Raised (AuthorizationSnapshot × Database) := do
  let (persisted, stored) ← AuthorizationSnapshotStore.persist sha256 surroundings.supplies
    authorization.snapshot idempotencyKey correlationId db
  match Table.lookup (·.idempotencyKey) db.authorizationSnapshots idempotencyKey with
  | none => do
      let audited ← stored.appendAudit sha256 surroundings.supplies.witnessStamp
        (witnessEntry persisted correlationId authorization.selection authorization.witnesses)
      return (persisted, audited)
  | some _ => return (persisted, stored)

def createSnapshot (actorId requestId idempotencyKey correlationId : String) (db : Database) :
    Except Raised (AuthorizationSnapshot × Database) := do
  let actorId ← requireText (.str actorId) "actor_id"
  let requestId ← requireText (.str requestId) "request_id"
  let idempotencyKey ← requireText (.str idempotencyKey) "idempotency_key"
  let correlationId ← requireText (.str correlationId) "correlation_id"
  let authorization ← creator.authorize surroundings actorId requestId db
  store sha256 surroundings idempotencyKey correlationId authorization db

end AuthoritativeSnapshotCreator

end VoodooOne
