import VoodooOne.Authorization.Approvals
import VoodooOne.Grant.ExecutionGrant

/-!
# Authorization snapshots

A snapshot records who may execute which approved request, on which target and under which policy.
Two snapshots of the same authorization differ in their identifiers and their time only, and have
the same idempotency binding.
-/

namespace VoodooOne

open Calendar

structure AuthorizationSnapshot where
  (snapshotId executionId requestId reviewContentSha256 actorId workspaceId environment : String)
  (capability capabilityDefinitionIdentity payloadDigest payloadDigestScheme : String)
  (executionTargetIdentity policyVersion policyIdentity approvalEvidenceIdentity : String)
  (issuanceTimestampSourceIdentity authorizedAt authorizationSourceRevision : String)
  executionTarget : ExecutionTarget
  approvalEvidence : ApprovalEvidenceSet
  snapshotDigest : String
deriving DecidableEq

def payloadDigestScheme : String := "request-payload/v1"

namespace AuthorizationSnapshot

def targetKind (snapshot : AuthorizationSnapshot) : String := snapshot.executionTarget.targetKind

def targetDigest (snapshot : AuthorizationSnapshot) : String :=
  snapshot.executionTarget.targetDigest

def approvalSetDigest (snapshot : AuthorizationSnapshot) : String :=
  snapshot.approvalEvidence.approvalSetDigest

def approvalValidUntil (snapshot : AuthorizationSnapshot) : String :=
  snapshot.approvalEvidence.approvalValidUntil

def directFields (snapshot : AuthorizationSnapshot) : List (String × Json) :=
  [("snapshot_id", .str snapshot.snapshotId),
    ("execution_id", .str snapshot.executionId),
    ("request_id", .str snapshot.requestId),
    ("review_content_sha256", .str snapshot.reviewContentSha256),
    ("actor_id", .str snapshot.actorId),
    ("workspace_id", .str snapshot.workspaceId),
    ("environment", .str snapshot.environment),
    ("capability", .str snapshot.capability),
    ("capability_definition_identity", .str snapshot.capabilityDefinitionIdentity),
    ("payload_digest", .str snapshot.payloadDigest),
    ("payload_digest_scheme", .str snapshot.payloadDigestScheme),
    ("execution_target_identity", .str snapshot.executionTargetIdentity),
    ("policy_version", .str snapshot.policyVersion),
    ("policy_identity", .str snapshot.policyIdentity),
    ("approval_evidence_identity", .str snapshot.approvalEvidenceIdentity),
    ("issuance_timestamp_source_identity", .str snapshot.issuanceTimestampSourceIdentity),
    ("authorized_at", .str snapshot.authorizedAt),
    ("authorization_source_revision", .str snapshot.authorizationSourceRevision)]

/-- The fields that come from its target and its approvals. -/
def derivedFields (snapshot : AuthorizationSnapshot) : List (String × Json) :=
  [("target_kind", .str snapshot.targetKind), ("target_digest", .str snapshot.targetDigest),
    ("approval_set_digest", .str snapshot.approvalSetDigest),
    ("approval_valid_until", .str snapshot.approvalValidUntil),
    ("required_permission", .str requiredExecutionPermission)]

/-- `_claims_without_digest`. -/
def claimFields (snapshot : AuthorizationSnapshot) : List (String × Json) :=
  ("schema_version", .int 1) :: ("snapshot_type", .str "authorization-snapshot/v1") ::
    (snapshot.directFields ++ snapshot.derivedFields)

def fields (snapshot : AuthorizationSnapshot) : List (String × Json) :=
  snapshot.claimFields ++ [("snapshot_digest", .str snapshot.snapshotDigest)]

def toDict (snapshot : AuthorizationSnapshot) : Json := .object snapshot.fields

def idempotencyBindingDigest (sha256 : String → String) (snapshot : AuthorizationSnapshot) :
    String :=
  digestOf sha256 (.object (snapshot.claimFields.filter fun field =>
    field.1 ∉ ["snapshot_id", "execution_id", "authorized_at"]))

/-- `_DIRECT_FIELDS`. -/
def fieldNames : List String :=
  ["schema_version", "snapshot_type", "snapshot_id", "execution_id", "request_id",
    "review_content_sha256", "actor_id", "workspace_id", "environment", "capability",
    "capability_definition_identity", "payload_digest", "payload_digest_scheme",
    "execution_target_identity", "policy_version", "policy_identity",
    "approval_evidence_identity", "issuance_timestamp_source_identity", "authorized_at",
    "authorization_source_revision", "target_kind", "target_digest", "approval_set_digest",
    "approval_valid_until", "required_permission", "snapshot_digest"]

/-- The snapshot with the given attributes and no digest. -/
def ofAttributes (self : Attributes) (executionTarget : ExecutionTarget)
    (approvalEvidence : ApprovalEvidenceSet) : AuthorizationSnapshot where
  snapshotId := self.text "snapshot_id"
  executionId := self.text "execution_id"
  requestId := self.text "request_id"
  reviewContentSha256 := self.text "review_content_sha256"
  actorId := self.text "actor_id"
  workspaceId := self.text "workspace_id"
  environment := self.text "environment"
  capability := self.text "capability"
  capabilityDefinitionIdentity := self.text "capability_definition_identity"
  payloadDigest := self.text "payload_digest"
  payloadDigestScheme := self.text "payload_digest_scheme"
  executionTargetIdentity := self.text "execution_target_identity"
  policyVersion := self.text "policy_version"
  policyIdentity := self.text "policy_identity"
  approvalEvidenceIdentity := self.text "approval_evidence_identity"
  issuanceTimestampSourceIdentity := self.text "issuance_timestamp_source_identity"
  authorizedAt := self.text "authorized_at"
  authorizationSourceRevision := self.text "authorization_source_revision"
  executionTarget
  approvalEvidence
  snapshotDigest := ""

/-- What the approvals and the target must agree on with the snapshot: name, actual and expected
value. -/
def bindings (self : Attributes) (target : ExecutionTarget) (evidence : ApprovalEvidenceSet) :
    List (String × Json × Json) :=
  [("request_id", .str evidence.requestId, self "request_id"),
    ("payload_digest", .str evidence.payloadDigest, self "payload_digest"),
    ("target_digest", .str evidence.targetDigest, .str target.targetDigest),
    ("capability", .str evidence.capability, self "capability"),
    ("policy_version", .str evidence.policyVersion, self "policy_version")]

/-- `create`, with the checks of the constructor. -/
def create (sha256 : String → String) (self : Attributes) (target : ExecutionTarget)
    (evidence : ApprovalEvidenceSet) : Except Raised AuthorizationSnapshot := do
  AttributeCheck.performAll self (requireTexts ["snapshot_id", "execution_id", "request_id",
    "actor_id", "workspace_id", "capability_definition_identity", "execution_target_identity",
    "policy_identity", "approval_evidence_identity", "issuance_timestamp_source_identity",
    "authorization_source_revision"])
  let _ ← requireHexDigest (self "review_content_sha256") "review_content_sha256"
  let _ ← requireHexDigest (self "payload_digest") "payload_digest"
  AttributeCheck.performAll self
    [.oneOf "environment" validEnvironments "environment is invalid",
      .equals "payload_digest_scheme" VoodooOne.payloadDigestScheme
        "payload_digest_scheme is unsupported"]
  let authorizedAt ← requireTimestamp (self "authorized_at") "authorized_at"
  let validUntil ← requireTimestamp (.str evidence.approvalValidUntil) "approval_valid_until"
  raiseIf (validUntil < authorizedAt) (valueError "authorization occurs after approval validity")
  forEach (fun approval => do
    let approvedAt ← requireTimestamp (.str approval.approvedAt) "approved_at"
    raiseIf (authorizedAt < approvedAt)
      (valueError "approval occurs after authorization")) evidence.approvals
  let mismatches := (bindings self target evidence).filter fun binding => binding.2.1 ≠ binding.2.2
  raiseIf (mismatches ≠ []) (valueError
    ("authorization snapshot cross-contract bindings mismatch: " ++
      reprNames (sortedNames (mismatches.map Prod.fst))))
  let draft := ofAttributes self target evidence
  let snapshotDigest ← requireHexDigest (.str (digestOf sha256 (.object draft.claimFields)))
    "snapshot_digest"
  return { draft with snapshotDigest }

def fromDict (sha256 : String → String) (value : Json) (target : ExecutionTarget)
    (evidence : ApprovalEvidenceSet) : Except Raised AuthorizationSnapshot := do
  requireExactFields value fieldNames "authorization-snapshot/v1"
  raiseIf ((value.get "schema_version").equalsInt 1 = false)
    (valueError "schema_version is unsupported")
  raiseIf (value.get "snapshot_type" ≠ .str "authorization-snapshot/v1")
    (valueError "snapshot_type is unsupported")
  raiseIf (value.get "required_permission" ≠ .str requiredExecutionPermission)
    (valueError "required_permission must be execution.run")
  let created ← create sha256 value.get target evidence
  -- the version has been compared as a number already
  forEach (fun expected => raiseIf (value.get expected.1 ≠ expected.2)
    (valueError (expected.1 ++ " does not match authorization snapshot content")))
    created.fields.tail
  return created

structure Valid (sha256 : String → String) (snapshot : AuthorizationSnapshot) : Prop where
  texts : ∀ text ∈ [snapshot.snapshotId, snapshot.executionId, snapshot.requestId,
    snapshot.actorId, snapshot.workspaceId, snapshot.capabilityDefinitionIdentity,
    snapshot.executionTargetIdentity, snapshot.policyIdentity, snapshot.approvalEvidenceIdentity,
    snapshot.issuanceTimestampSourceIdentity, snapshot.authorizationSourceRevision], ValidText text
  digests : IsDigest snapshot.reviewContentSha256 ∧ IsDigest snapshot.payloadDigest
  environment : snapshot.environment ∈ validEnvironments
  scheme : snapshot.payloadDigestScheme = VoodooOne.payloadDigestScheme
  inTime : ∃ authorizedAt validUntil : Instant, snapshot.authorizedAt = authorizedAt.isoformat ∧
    ValidText authorizedAt.isoformat ∧ snapshot.approvalValidUntil = validUntil.isoformat ∧
    ValidText validUntil.isoformat ∧ authorizedAt ≤ validUntil ∧
    ∀ approval ∈ snapshot.approvalEvidence.approvals, ∃ approvedAt : Instant,
      approval.approvedAt = approvedAt.isoformat ∧ ValidText approvedAt.isoformat ∧
        approvedAt ≤ authorizedAt
  bound : snapshot.approvalEvidence.requestId = snapshot.requestId ∧
    snapshot.approvalEvidence.payloadDigest = snapshot.payloadDigest ∧
    snapshot.approvalEvidence.targetDigest = snapshot.targetDigest ∧
    snapshot.approvalEvidence.capability = snapshot.capability ∧
    snapshot.approvalEvidence.policyVersion = snapshot.policyVersion
  digest : snapshot.snapshotDigest =
    digestOf sha256 (.object (claimFields { snapshot with snapshotDigest := "" })) ∧
      IsDigest snapshot.snapshotDigest

variable {sha256 : String → String} {self : Attributes} {target : ExecutionTarget}
  {evidence : ApprovalEvidenceSet} {snapshot : AuthorizationSnapshot}

theorem mismatches_eq_nil : ((bindings self target evidence).filter fun binding =>
    binding.2.1 ≠ binding.2.2) = [] ↔ self "request_id" = .str evidence.requestId ∧
        self "payload_digest" = .str evidence.payloadDigest ∧
        evidence.targetDigest = target.targetDigest ∧
        self "capability" = .str evidence.capability ∧
        self "policy_version" = .str evidence.policyVersion := by
  simp only [bindings, List.filter_eq_nil_iff, List.forall_mem_cons, decide_not, Bool.not_eq_true',
    decide_eq_false_iff_not, not_not, Json.str.injEq, List.not_mem_nil, IsEmpty.forall_iff,
    implies_true, and_true]
  constructor
  · rintro ⟨request, payload, targetSame, capability, policy⟩
    exact ⟨request.symm, payload.symm, targetSame, capability.symm, policy.symm⟩
  · rintro ⟨request, payload, targetSame, capability, policy⟩
    exact ⟨request.symm, payload.symm, targetSame, capability.symm, policy.symm⟩

/-- A created snapshot has the given attributes, and they pass its checks. -/
theorem create_eq_ok : create sha256 self target evidence = .ok snapshot ↔
    (∀ entry ∈ snapshot.directFields, self entry.1 = entry.2) ∧
      snapshot.executionTarget = target ∧ snapshot.approvalEvidence = evidence ∧
      snapshot.Valid sha256 := by
  simp only [create, bind_eq_ok, AttributeCheck.performAll_eq_ok, requireHexDigest_eq_ok,
    requireTimestamp_eq_ok, raiseIf_eq_ok, not_not, forEach_eq_ok, pure_eq_ok, Json.str.injEq,
    requireTexts, List.map_cons, List.map_nil, List.forall_mem_cons, AttributeCheck.Holds,
    mismatches_eq_nil, directFields]
  constructor
  · rintro ⟨_, ⟨⟨isSnapshot, snapshotText⟩, ⟨isExecution, executionText⟩, ⟨isRequest, requestText⟩,
      ⟨isActor, actorText⟩, ⟨isWorkspace, workspaceText⟩, ⟨isDefinition, definitionText⟩,
      ⟨isTarget, targetText⟩, ⟨isPolicy, policyText⟩, ⟨isEvidence, evidenceText⟩,
      ⟨isSource, sourceText⟩, ⟨isRevision, revisionText⟩, -⟩, review, ⟨isReview, reviewDigest⟩,
      payload, ⟨isPayload, payloadDigest⟩, _, ⟨⟨isEnvironment, environment⟩, ⟨isScheme, scheme⟩, -⟩,
      authorizedAt, ⟨isTime, time⟩, validUntil, ⟨isUntil, until'⟩, _, before, _, approvals, _,
      ⟨request, payloadSame, targetSame, capability, policy⟩, _, ⟨rfl, digest⟩, rfl⟩
    have own {field text : String} (same : self field = .str text) :
        self field = .str (self.text field) := by rw [Attributes.text_of_str same, same]
    have ownDigest {field text : String} (same : self field = .str text) (digest : IsDigest text) :
        IsDigest (self.text field) := by rwa [Attributes.text_of_str same]
    refine ⟨⟨isSnapshot, isExecution, isRequest, own isReview, isActor, isWorkspace, isEnvironment,
      own capability, isDefinition, own isPayload, isScheme, isTarget, own policy, isPolicy,
      isEvidence, isSource, own isTime, isRevision, List.forall_mem_nil _⟩, rfl, rfl,
      { texts := ?_
        digests := ⟨ownDigest isReview reviewDigest, ownDigest isPayload payloadDigest⟩
        environment
        scheme
        inTime := ⟨authorizedAt, validUntil, Attributes.text_of_str isTime, time, isUntil, until',
          not_lt.mp before, fun approval member => ?_⟩
        bound := ⟨(Attributes.text_of_str request).symm, (Attributes.text_of_str payloadSame).symm,
          targetSame, (Attributes.text_of_str capability).symm,
          (Attributes.text_of_str policy).symm⟩
        digest := ⟨rfl, digest⟩ }⟩
    · simp only [List.forall_mem_cons]
      exact ⟨snapshotText, executionText, requestText, actorText, workspaceText, definitionText,
        targetText, policyText, evidenceText, sourceText, revisionText, List.forall_mem_nil _⟩
    · obtain ⟨approvedAt, ⟨same, valid⟩, notAfter⟩ := approvals approval member
      exact ⟨approvedAt, same, valid, not_lt.mp notAfter⟩
  · rintro ⟨⟨snapshotId, executionId, requestId, review, actorId, workspaceId, environment,
      capability, definition, payload, scheme, targetIdentity, policyVersion, policyIdentity,
      evidenceIdentity, source, time, revision, -⟩, rfl, rfl, valid⟩
    have draft : ofAttributes self snapshot.executionTarget snapshot.approvalEvidence =
        { snapshot with snapshotDigest := "" } := by
      simp only [ofAttributes, Attributes.text, Json.text?, Option.getD_some, snapshotId,
        executionId, requestId, review,
        actorId, workspaceId, environment, capability, definition, payload, scheme, targetIdentity,
        policyVersion, policyIdentity, evidenceIdentity, source, time, revision]
    obtain ⟨authorizedAt, validUntil, sameTime, isTime, sameUntil, isUntil, before, approvals⟩ :=
      valid.inTime
    have texts := valid.texts
    simp only [List.forall_mem_cons] at texts
    obtain ⟨snapshotText, executionText, requestText, actorText, workspaceText, definitionText,
      targetText, policyText, evidenceText, sourceText, revisionText, -⟩ := texts
    have held {field text : String} (same : self field = .str text) (text' : ValidText text) :
        self field = .str (self.text field) ∧ ValidText (self.text field) := by
      rw [Attributes.text_of_str same]
      exact ⟨same, text'⟩
    obtain ⟨boundRequest, boundPayload, boundTarget, boundCapability, boundPolicy⟩ := valid.bound
    refine ⟨(), ⟨held snapshotId snapshotText, held executionId executionText,
      held requestId requestText, held actorId actorText, held workspaceId workspaceText,
      held definition definitionText, held targetIdentity targetText,
      held policyIdentity policyText,
      held evidenceIdentity evidenceText, held source sourceText, held revision revisionText,
      List.forall_mem_nil _⟩, _, ⟨review, valid.digests.1⟩, _, ⟨payload, valid.digests.2⟩, (),
      ⟨?_, ?_, List.forall_mem_nil _⟩, authorizedAt, ⟨sameTime ▸ time, isTime⟩, validUntil,
      ⟨sameUntil, isUntil⟩, (), not_lt.mpr before, (), fun approval member => ?_, (),
      ⟨boundRequest ▸ requestId, boundPayload ▸ payload, boundTarget, boundCapability ▸ capability,
        boundPolicy ▸ policyVersion⟩, snapshot.snapshotDigest, ⟨?_, valid.digest.2⟩, ?_⟩
    · rw [Attributes.text_of_str environment]
      exact ⟨environment, valid.environment⟩
    · rw [Attributes.text_of_str scheme]
      exact ⟨scheme, valid.scheme⟩
    · obtain ⟨approvedAt, same, isTime, notAfter⟩ := approvals approval member
      exact ⟨approvedAt, ⟨same, isTime⟩, not_lt.mpr notAfter⟩
    · rw [draft]
      exact valid.digest.1.symm
    · rw [draft]

def Created (sha256 : String → String) (snapshot : AuthorizationSnapshot) : Prop :=
  (∃ self target evidence, create sha256 self target evidence = .ok snapshot) ∧
    snapshot.executionTarget.Created sha256 ∧ snapshot.approvalEvidence.Created sha256

theorem Created.valid (created : snapshot.Created sha256) : snapshot.Valid sha256 := by
  obtain ⟨⟨self, target, evidence, created⟩, -⟩ := created
  exact (create_eq_ok.mp created).2.2.2

theorem Created.fromDict_toDict (created : snapshot.Created sha256) :
    fromDict sha256 snapshot.toDict snapshot.executionTarget snapshot.approvalEvidence =
      .ok snapshot := by
  have distinct : (snapshot.fields.map Prod.fst).Nodup := by
    rw [show snapshot.fields.map Prod.fst = fieldNames from rfl]
    decide
  have get (entry : String × Json) (member : entry ∈ snapshot.fields) :
      snapshot.toDict.get entry.1 = entry.2 := Json.get_object_of_mem distinct member
  have version := get ("schema_version", .int 1) (by simp [fields, claimFields])
  have type := get ("snapshot_type", .str "authorization-snapshot/v1")
    (by simp [fields, claimFields])
  have permission := get ("required_permission", .str requiredExecutionPermission)
    (by simp [fields, claimFields, derivedFields])
  have again : create sha256 snapshot.toDict.get snapshot.executionTarget
      snapshot.approvalEvidence = .ok snapshot := by
    refine create_eq_ok.mpr ⟨fun entry member => get entry ?_, rfl, rfl, created.valid⟩
    exact List.mem_append_left _ (List.mem_cons_of_mem _ (List.mem_cons_of_mem _
      (List.mem_append_left _ member)))
  simp only [fromDict, bind_eq_ok, raiseIf_eq_ok, not_not, forEach_eq_ok, pure_eq_ok]
  refine ⟨(), requireExactFields_object, (), ?_, (), type, (), permission, snapshot, again, (),
    fun entry member => get entry (List.mem_of_mem_tail member), rfl⟩
  rw [version]
  decide

end AuthorizationSnapshot

end VoodooOne
