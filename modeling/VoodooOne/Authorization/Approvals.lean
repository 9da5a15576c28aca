import VoodooOne.Authorization.ExecutionContract

/-!
# Approval evidence

The approvals of a request, in one order and under one digest, with the moment until which they
allow an execution.
-/

namespace VoodooOne

open Calendar

structure ApprovalRecord where
  (approvalId approverId decision approvedAt : String)
deriving DecidableEq, Repr

namespace ApprovalRecord

def fields (record : ApprovalRecord) : List (String × Json) :=
  [("approval_id", .str record.approvalId), ("approver_id", .str record.approverId),
    ("decision", .str record.decision), ("approved_at", .str record.approvedAt)]

def toDict (record : ApprovalRecord) : Json := .object record.fields

def create (self : Attributes) : Except Raised ApprovalRecord := do
  let approvalId ← requireIdentifier (self "approval_id") "approval_id"
  let approverId ← requireIdentifier (self "approver_id") "approver_id"
  raiseIf (self "decision" ≠ .str "APPROVED")
    (valueError "approval record decision must be APPROVED")
  let approvedAt ← requireTimestamp (self "approved_at") "approved_at"
  return ⟨approvalId, approverId, "APPROVED", approvedAt.isoformat⟩

def fromDict (value : Json) : Except Raised ApprovalRecord := do
  requireExactFields value ["approval_id", "approver_id", "decision", "approved_at"]
    "approval-record/v1"
  create value.get

def Created (record : ApprovalRecord) : Prop := ∃ self, create self = .ok record

variable {self other : Attributes} {record : ApprovalRecord}

theorem create_eq_ok : create self = .ok record ↔
    (∀ entry ∈ record.fields, self entry.1 = entry.2) ∧
      (ValidText record.approvalId ∧ matchesName "._:-" record.approvalId = true) ∧
      (ValidText record.approverId ∧ matchesName "._:-" record.approverId = true) ∧
      record.decision = "APPROVED" ∧
      ∃ instant : Instant, record.approvedAt = instant.isoformat ∧ ValidText instant.isoformat := by
  simp only [create, requireIdentifier, bind_eq_ok, requireMatch_eq_ok, raiseIf_eq_ok, not_not,
    requireTimestamp_eq_ok, pure_eq_ok, fields, List.forall_mem_cons]
  constructor
  · rintro ⟨_, ⟨approvalId, approval⟩, _, ⟨approverId, approver⟩, _, decision, instant,
      ⟨approvedAt, valid⟩, rfl⟩
    exact ⟨⟨approvalId, approverId, decision, approvedAt, List.forall_mem_nil _⟩, approval,
      approver, rfl, instant, rfl, valid⟩
  · rintro ⟨⟨approvalId, approverId, decision, approvedAt, -⟩, approval, approver, isApproved,
      instant, same, valid⟩
    refine ⟨_, ⟨approvalId, approval⟩, _, ⟨approverId, approver⟩, (), isApproved ▸ decision,
      instant, ⟨same ▸ approvedAt, valid⟩, ?_⟩
    cases record
    simp_all

theorem Created.fromDict_toDict (created : record.Created) :
    fromDict record.toDict = .ok record := by
  obtain ⟨self, created⟩ := created
  obtain ⟨-, valid⟩ := create_eq_ok.mp created
  have distinct : (record.fields.map Prod.fst).Nodup := by simp [fields]
  rw [fromDict, bind_eq_ok]
  refine ⟨(), requireExactFields_object, create_eq_ok.mpr ⟨fun entry member => ?_, valid⟩⟩
  exact Json.get_object_of_mem distinct member

theorem mapM_fromDict_toDict {records : List ApprovalRecord}
    (created : ∀ record ∈ records, record.Created) :
    (records.map toDict).mapM fromDict = .ok records := by
  induction records with
  | nil => rfl
  | cons record records induction =>
      obtain ⟨first, rest⟩ := List.forall_mem_cons.mp created
      rw [List.map_cons, List.mapM_cons, first.fromDict_toDict, ok_bind, induction rest]
      rfl

def sortKey (record : ApprovalRecord) : List String :=
  [record.approvalId, record.approverId, record.approvedAt]

def Le (left right : ApprovalRecord) : Prop := left.sortKey ≤ right.sortKey

instance : DecidableRel Le := fun left right =>
  inferInstanceAs (Decidable (left.sortKey ≤ right.sortKey))

theorem ordered_again (records : List ApprovalRecord) :
    (records.insertionSort Le).insertionSort Le = records.insertionSort Le := by
  have total : Std.Total Le := ⟨fun left right => le_total left.sortKey right.sortKey⟩
  have trans : IsTrans ApprovalRecord Le := ⟨fun _ _ _ first second => le_trans first second⟩
  exact (List.pairwise_insertionSort Le records).insertionSort_eq

end ApprovalRecord

def requireArray (value : Json) (field : String) : Except Raised (List Json) :=
  match value with
  | .arr items => .ok items
  | _ => .error (valueError (field ++ " must be an array"))

structure ApprovalEvidenceSet where
  (requestId payloadDigest targetDigest capability policyVersion : String)
  approvals : List ApprovalRecord
  (approvalValidUntil approvalSetDigest : String)
deriving DecidableEq

namespace ApprovalEvidenceSet

def textFields (evidence : ApprovalEvidenceSet) : List (String × Json) :=
  [("request_id", .str evidence.requestId), ("payload_digest", .str evidence.payloadDigest),
    ("target_digest", .str evidence.targetDigest), ("capability", .str evidence.capability),
    ("policy_version", .str evidence.policyVersion),
    ("approval_valid_until", .str evidence.approvalValidUntil)]

def claimFields (evidence : ApprovalEvidenceSet) : List (String × Json) :=
  ("schema_version", .int 1) :: ("approval_set_type", .str "approval-evidence-set/v1") ::
    ("approvals", .arr (evidence.approvals.map (·.toDict))) :: evidence.textFields

def fields (evidence : ApprovalEvidenceSet) : List (String × Json) :=
  evidence.claimFields ++ [("approval_set_digest", .str evidence.approvalSetDigest)]

def toDict (evidence : ApprovalEvidenceSet) : Json := .object evidence.fields

/-- `create`; reading the approvals may raise. -/
def create (sha256 : String → String) (self : Attributes)
    (approvals : Except Raised (List ApprovalRecord)) : Except Raised ApprovalEvidenceSet := do
  let requestId ← requireIdentifier (self "request_id") "request_id"
  let payloadDigest ← requireHexDigest (self "payload_digest") "payload_digest"
  let targetDigest ← requireHexDigest (self "target_digest") "target_digest"
  let capability ← requireCapability (self "capability")
  let policyVersion ← requirePolicyVersion (self "policy_version")
  let validUntil ← requireTimestamp (self "approval_valid_until") "approval_valid_until"
  let supplied ← approvals
  raiseIf (supplied = []) (valueError "approvals must contain approved records")
  let ordered := supplied.insertionSort ApprovalRecord.Le
  raiseIf (¬(ordered.map (·.approvalId)).Nodup) (valueError "approval IDs must be distinct")
  raiseIf (¬(ordered.map (·.approverId)).Nodup) (valueError "approver identities must be distinct")
  forEach (fun approval => do
    let approvedAt ← requireTimestamp (.str approval.approvedAt) "approved_at"
    raiseIf (validUntil < approvedAt)
      (valueError "approval occurs after approval validity")) ordered
  let draft : ApprovalEvidenceSet := ⟨requestId, payloadDigest, targetDigest, capability,
    policyVersion, ordered, validUntil.isoformat, ""⟩
  let approvalSetDigest ← requireHexDigest (.str (digestOf sha256 (.object draft.claimFields)))
    "approval_set_digest"
  return { draft with approvalSetDigest }

def fromDict (sha256 : String → String) (value : Json) : Except Raised ApprovalEvidenceSet := do
  requireExactFields value
    ["schema_version", "approval_set_type", "approvals", "request_id", "payload_digest",
      "target_digest", "capability", "policy_version", "approval_valid_until",
      "approval_set_digest"] "approval-evidence-set/v1"
  raiseIf (value.get "schema_version" ≠ .int 1) (valueError "schema_version is unsupported")
  raiseIf (value.get "approval_set_type" ≠ .str "approval-evidence-set/v1")
    (valueError "approval_set_type is unsupported")
  let rawApprovals ← requireArray (value.get "approvals") "approvals"
  let evidence ← create sha256 value.get (rawApprovals.mapM ApprovalRecord.fromDict)
  let suppliedDigest ← requireHexDigest (value.get "approval_set_digest") "approval_set_digest"
  raiseIf (suppliedDigest ≠ evidence.approvalSetDigest)
    (valueError "approval_set_digest does not match approval evidence")
  return evidence

structure Valid (sha256 : String → String) (evidence : ApprovalEvidenceSet) : Prop where
  request : ValidText evidence.requestId ∧ matchesName "._:-" evidence.requestId = true
  digests : IsDigest evidence.payloadDigest ∧ IsDigest evidence.targetDigest
  capability : ValidText evidence.capability ∧ matchesCapability evidence.capability = true
  policy : ValidText evidence.policyVersion ∧ matchesName "._:/-" evidence.policyVersion = true
  nonempty : evidence.approvals ≠ []
  ordered : evidence.approvals.insertionSort ApprovalRecord.Le = evidence.approvals
  distinct : (evidence.approvals.map (·.approvalId)).Nodup ∧
    (evidence.approvals.map (·.approverId)).Nodup
  inTime : ∃ validUntil : Instant, evidence.approvalValidUntil = validUntil.isoformat ∧
    ValidText validUntil.isoformat ∧ ∀ approval ∈ evidence.approvals, ∃ approvedAt : Instant,
      approval.approvedAt = approvedAt.isoformat ∧ ValidText approvedAt.isoformat ∧
        approvedAt ≤ validUntil
  digest : evidence.approvalSetDigest =
    digestOf sha256 (.object (claimFields { evidence with approvalSetDigest := "" })) ∧
      IsDigest evidence.approvalSetDigest

variable {sha256 : String → String} {self : Attributes} {evidence : ApprovalEvidenceSet}
  {approvals : Except Raised (List ApprovalRecord)}

theorem create_eq_ok : create sha256 self approvals = .ok evidence ↔
    (∀ entry ∈ evidence.textFields, self entry.1 = entry.2) ∧
      (∃ supplied, approvals = .ok supplied ∧
        evidence.approvals = supplied.insertionSort ApprovalRecord.Le) ∧
      evidence.Valid sha256 := by
  simp only [create, requireIdentifier, requireCapability, requirePolicyVersion, bind_eq_ok,
    requireMatch_eq_ok, requireHexDigest_eq_ok, requireTimestamp_eq_ok, raiseIf_eq_ok, not_not,
    forEach_eq_ok, pure_eq_ok, Json.str.injEq, textFields, List.forall_mem_cons]
  constructor
  · rintro ⟨_, ⟨request, isRequest⟩, _, ⟨payload, isPayload⟩, _, ⟨target, isTarget⟩, _,
      ⟨capability, isCapability⟩, _, ⟨policy, isPolicy⟩, validUntil, ⟨until_, isUntil⟩, supplied,
      rfl, _, nonempty, _, approvalIds, _, approverIds, _, inTime, _, ⟨rfl, isDigest⟩, rfl⟩
    refine ⟨⟨request, payload, target, capability, policy, until_, List.forall_mem_nil _⟩,
      ⟨supplied, rfl, rfl⟩, ⟨isRequest, ⟨isPayload, isTarget⟩, isCapability, isPolicy, ?_,
        ApprovalRecord.ordered_again supplied, ⟨approvalIds, approverIds⟩,
        ⟨validUntil, rfl, isUntil, ?_⟩, ⟨rfl, isDigest⟩⟩⟩
    · intro none
      exact nonempty (List.length_eq_zero_iff.mp
        ((List.length_insertionSort _ _).symm.trans (congrArg List.length none)))
    · intro approval member
      obtain ⟨approvedAt, ⟨same, valid⟩, before⟩ := inTime approval member
      exact ⟨approvedAt, same, valid, not_lt.mp before⟩
  · rintro ⟨⟨request, payload, target, capability, policy, until_, -⟩, ⟨supplied, rfl, ordered⟩,
      valid⟩
    obtain ⟨validUntil, same, isUntil, inTime⟩ := valid.inTime
    have draft : (⟨evidence.requestId, evidence.payloadDigest, evidence.targetDigest,
        evidence.capability, evidence.policyVersion, supplied.insertionSort ApprovalRecord.Le,
        validUntil.isoformat, ""⟩ : ApprovalEvidenceSet) =
          { evidence with approvalSetDigest := "" } := by rw [← ordered, ← same]
    refine ⟨_, ⟨request, valid.request⟩, _, ⟨payload, valid.digests.1⟩, _,
      ⟨target, valid.digests.2⟩, _, ⟨capability, valid.capability⟩, _, ⟨policy, valid.policy⟩,
      validUntil, ⟨same ▸ until_, isUntil⟩, supplied, rfl, (), ?_, (), ordered ▸ valid.distinct.1,
      (), ordered ▸ valid.distinct.2, (), ?_, evidence.approvalSetDigest,
      ⟨?_, valid.digest.2⟩, ?_⟩
    · rintro rfl
      exact valid.nonempty ordered
    · rw [← ordered]
      intro approval member
      obtain ⟨approvedAt, sameTime, isTime, before⟩ := inTime approval member
      exact ⟨approvedAt, ⟨sameTime, isTime⟩, not_lt.mpr before⟩
    · rw [draft]
      exact valid.digest.1.symm
    · rw [← ordered, ← same]

def Created (sha256 : String → String) (evidence : ApprovalEvidenceSet) : Prop :=
  (∃ self approvals, create sha256 self approvals = .ok evidence) ∧
    ∀ record ∈ evidence.approvals, record.Created

theorem Created.fromDict_toDict (created : evidence.Created sha256) :
    fromDict sha256 evidence.toDict = .ok evidence := by
  obtain ⟨⟨self, approvals, created⟩, records⟩ := created
  obtain ⟨-, -, valid⟩ := create_eq_ok.mp created
  have distinct : (evidence.fields.map Prod.fst).Nodup := by
    simp [fields, claimFields, textFields]
  have get (entry : String × Json) (member : entry ∈ evidence.fields) :
      evidence.toDict.get entry.1 = entry.2 := Json.get_object_of_mem distinct member
  have version := get ("schema_version", .int 1) (by simp [fields, claimFields])
  have type := get ("approval_set_type", .str "approval-evidence-set/v1")
    (by simp [fields, claimFields])
  have raw := get ("approvals", .arr (evidence.approvals.map (·.toDict)))
    (by simp [fields, claimFields])
  have stored := get ("approval_set_digest", .str evidence.approvalSetDigest) (by simp [fields])
  have again : create sha256 evidence.toDict.get
      ((evidence.approvals.map (·.toDict)).mapM ApprovalRecord.fromDict) = .ok evidence := by
    rw [ApprovalRecord.mapM_fromDict_toDict records]
    refine create_eq_ok.mpr ⟨fun entry member => get entry ?_, ⟨_, rfl, valid.ordered.symm⟩, valid⟩
    exact List.mem_append_left _ (List.mem_cons_of_mem _ (List.mem_cons_of_mem _
      (List.mem_cons_of_mem _ member)))
  simp only [fromDict, bind_eq_ok, raiseIf_eq_ok, not_not, requireHexDigest_eq_ok, pure_eq_ok]
  refine ⟨(), requireExactFields_object, (), version, (), type, _, ?_, evidence, again, _,
    ⟨stored, valid.digest.2⟩, (), rfl, rfl⟩
  rw [raw, requireArray]

end ApprovalEvidenceSet

end VoodooOne
