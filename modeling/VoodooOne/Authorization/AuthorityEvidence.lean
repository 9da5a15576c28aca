import VoodooOne.Authorization.SnapshotCreator
import VoodooOne.Foundation.Raises

/-!
# Evidence of an authorization

Before a grant is issued, the witness event of its snapshot is read back from the audit log.  There
must be exactly one such event, and it must be for this snapshot.
-/

namespace VoodooOne

structure SnapshotAuthorityEvidence where
  (snapshotId snapshotDigest authorityWitnessSetDigest : String)
  revocationEpoch : Int
  (eventHash evidenceDigest : String)
deriving DecidableEq, Repr

namespace SnapshotAuthorityEvidence

def claimsWithoutDigest (evidence : SnapshotAuthorityEvidence) : Json :=
  .object [("schema_version", .int 1), ("evidence_type", .str "snapshot-authority-evidence/v1"),
    ("snapshot_id", .str evidence.snapshotId),
    ("snapshot_digest", .str evidence.snapshotDigest),
    ("authority_witness_set_digest", .str evidence.authorityWitnessSetDigest),
    ("revocation_epoch", .int evidence.revocationEpoch),
    ("event_hash", .str evidence.eventHash)]

def create (sha256 : String → String) (snapshotId snapshotDigest authorityWitnessSetDigest : String)
    (revocationEpoch : Int) (eventHash : String) : Except Raised SnapshotAuthorityEvidence := do
  let draft : SnapshotAuthorityEvidence :=
    ⟨snapshotId, snapshotDigest, authorityWitnessSetDigest, revocationEpoch, eventHash, ""⟩
  let evidence := { draft with evidenceDigest := digestOf sha256 draft.claimsWithoutDigest }
  let _ ← requireText (.str evidence.snapshotId) "snapshot_id"
  requireDigestFields [("snapshot_digest", evidence.snapshotDigest),
    ("authority_witness_set_digest", evidence.authorityWitnessSetDigest),
    ("event_hash", evidence.eventHash), ("evidence_digest", evidence.evidenceDigest)]
  raiseIf (evidence.revocationEpoch < 0) (valueError "revocation_epoch must be non-negative")
  return evidence

/-- `_AUTHORITY_WITNESS_PAYLOAD_FIELDS`. -/
def payloadFields : List String :=
  ["correlation_id", "snapshot_digest", "authority_witness_set_digest",
    "permission_decision_digest", "capability_selection_digest",
    "capability_selection_authority_revision", "policy_identity",
    "capability_definition_identity", "capability_activation_digest", "target_binding_digest",
    "approval_certificate_digest", "clock_witness_digest", "revocation_epoch",
    "authorization_source_revision"]

/-- `GrantIssuanceDenied`. -/
def denied (reason : String) : Raised := ⟨.grantIssuanceDenied, reason⟩

/-- The exception of a snapshot without exactly one witness event. -/
def ambiguous : Raised := denied "SNAPSHOT_AUTHORITY_EVIDENCE_AMBIGUOUS"

abbrev Witnesses (snapshotId : String) (event : AuditEventRow) : Prop :=
  event.action = AuthoritativeSnapshotCreator.witnessAction ∧
    event.targetType = "authorization_snapshot" ∧ event.targetId = snapshotId

/-- `SELECT_SNAPSHOT_AUTHORITY_WITNESS`. -/
def selectWitness (db : Database) (snapshotId : String) : List AuditEventRow :=
  (db.auditEvents.filter fun event => Witnesses snapshotId event).reverse.take 2

def onlyRow : List AuditEventRow → Except Raised AuditEventRow
  | [row] => .ok row
  | _ => .error ambiguous

def requireEventTexts (row : AuditEventRow) : Except Raised Unit := do
  requireTextFields [("id", row.id), ("actor_id", row.actorId), ("action", row.action),
    ("target_type", row.targetType), ("target_id", row.targetId)]
  let _ ← requireTimestamp (.str row.createdAt) "created_at"
  forEach (fun field => do let _ ← requireText (row.payload.get field) field)
    ["correlation_id", "capability_selection_authority_revision", "authorization_source_revision"]

def requireEventHashes (row : AuditEventRow) : Except Raised Unit := do
  raiseIf (row.previousHash ≠ genesis ∧ ¬IsDigest row.previousHash)
    (valueError "previous_hash must be a lowercase SHA-256 digest")
  raiseIf (¬IsDigest row.eventHash) (valueError "event_hash must be a lowercase SHA-256 digest")

/-- What an event must agree on with its snapshot: name, actual and expected value. -/
def bindings (row : AuditEventRow) (snapshot : AuthorizationSnapshot) :
    List (String × Json × Json) :=
  [("actor_id", .str row.actorId, .str snapshot.actorId),
    ("target_id", .str row.targetId, .str snapshot.snapshotId),
    ("snapshot_digest", row.payload.get "snapshot_digest", .str snapshot.snapshotDigest),
    ("policy_identity", row.payload.get "policy_identity", .str snapshot.policyIdentity),
    ("capability_definition_identity", row.payload.get "capability_definition_identity",
      .str snapshot.capabilityDefinitionIdentity),
    ("authorization_source_revision", row.payload.get "authorization_source_revision",
      .str snapshot.authorizationSourceRevision)]

/-- `load_snapshot_authority_evidence_on_connection`.  Payloads are stored in canonical form. -/
def load (sha256 : String → String) (db : Database) (snapshot : AuthorizationSnapshot) :
    Except Raised SnapshotAuthorityEvidence := do
  let row ← onlyRow (selectWitness db snapshot.snapshotId)
  raiseIf (row.payload.keys = none) (denied "SNAPSHOT_AUTHORITY_EVIDENCE_INVALID")
  catching [.valueError] (denied "SNAPSHOT_AUTHORITY_EVIDENCE_FIELDS_INVALID")
    (requireExactFields row.payload payloadFields "authority witness")
  catching [.valueError] (denied "SNAPSHOT_AUTHORITY_EVIDENCE_INVALID") (requireEventTexts row)
  catching [.valueError] (denied "SNAPSHOT_AUTHORITY_EVENT_HASH_INVALID") (requireEventHashes row)
  raiseIf (chainedHash sha256 row.previousHash row.event ≠ row.eventHash)
    (denied "SNAPSHOT_AUTHORITY_EVENT_HASH_INVALID")
  raiseIf (∃ binding ∈ bindings row snapshot, binding.2.1 ≠ binding.2.2)
    (denied "SNAPSHOT_AUTHORITY_EVIDENCE_BINDING_MISMATCH")
  catching [.valueError] (denied "SNAPSHOT_AUTHORITY_EVIDENCE_INVALID")
    (forEach (fun field => do let _ ← requireDigest (row.payload.get field) field)
      ["authority_witness_set_digest", "permission_decision_digest",
        "capability_selection_digest", "policy_identity", "capability_definition_identity",
        "capability_activation_digest", "target_binding_digest", "approval_certificate_digest",
        "clock_witness_digest"])
  let revocationEpoch ← DurableGrantService.epochAnswer (denied "SNAPSHOT_REVOCATION_EPOCH_INVALID")
    (row.payload.get "revocation_epoch")
  create sha256 snapshot.snapshotId snapshot.snapshotDigest
    (Attributes.text row.payload.get "authority_witness_set_digest") revocationEpoch row.eventHash

variable {sha256 : String → String} {db : Database} {snapshot : AuthorizationSnapshot}

/-- A selection is a single row exactly when the log has a single witness event. -/
theorem onlyRow_selectWitness {snapshotId : String} {row : AuditEventRow} :
    onlyRow (selectWitness db snapshotId) = .ok row ↔
      (db.auditEvents.filter fun event => Witnesses snapshotId event) = [row] := by
  unfold selectWitness
  generalize (db.auditEvents.filter fun event => Witnesses snapshotId event) = events
  obtain ⟨newest, rfl⟩ : ∃ newest : List AuditEventRow, events = newest.reverse :=
    ⟨events.reverse, events.reverse_reverse.symm⟩
  rw [List.reverse_reverse, List.reverse_eq_iff, List.reverse_singleton]
  match newest with
  | [] => simp [onlyRow]
  | [first] => simp [onlyRow]
  | first :: second :: older => simp [onlyRow]

/-- An exception other than the one of an ambiguous selection. -/
def Unambiguous (error : Raised) : Prop := error ≠ ambiguous

theorem load_ne_ambiguous {row : AuditEventRow}
    (only : (db.auditEvents.filter fun event => Witnesses snapshot.snapshotId event) = [row]) :
    load sha256 db snapshot ≠ .error ambiguous := by
  have other {reason : String} (differ : reason ≠ "SNAPSHOT_AUTHORITY_EVIDENCE_AMBIGUOUS") :
      Unambiguous (denied reason) := fun same => differ (congrArg Raised.message same)
  have values (message : String) : Unambiguous (valueError message) :=
    fun same => ExceptionClass.noConfusion (congrArg Raised.cls same)
  have texts (value : Json) (field : String) : Raises Unambiguous (requireText value field) :=
    raises_requireText values value field
  have rest : Raises Unambiguous (load sha256 db snapshot) := by
    unfold load
    rw [onlyRow_selectWitness.mpr only, ok_bind]
    refine Raises.bind (raises_raiseIf (other (by decide))) fun _ => ?_
    refine Raises.bind ((raises_requireExactFields values _ _ _).catching (other (by decide)))
      fun _ => ?_
    refine Raises.bind (Raises.catching ?_ (other (by decide))) fun _ => ?_
    · exact (raises_requireTextFields values _).bind fun _ =>
        (raises_requireTimestamp values _ _).bind fun _ =>
          raises_forEach fun _ => (texts _ _).bind fun _ => raises_pure ()
    refine Raises.bind (Raises.catching ?_ (other (by decide))) fun _ => ?_
    · exact Raises.bind (raises_raiseIf (values _)) fun _ => raises_raiseIf (values _)
    refine Raises.bind (raises_raiseIf (other (by decide))) fun _ => ?_
    refine Raises.bind (raises_raiseIf (other (by decide))) fun _ => ?_
    refine Raises.bind (Raises.catching ?_ (other (by decide))) fun _ => ?_
    · exact raises_forEach fun _ => (raises_requireDigest values _ _).bind fun _ => raises_pure ()
    refine Raises.bind ?_ fun epoch => ?_
    · unfold DurableGrantService.epochAnswer
      split
      · split
        · exact raises_error (other (by decide))
        · exact raises_ok _
      · exact raises_error (other (by decide))
    · exact (texts _ _).bind fun _ => (raises_requireDigestFields values _).bind fun _ =>
        Raises.bind (raises_raiseIf (values _)) fun _ => raises_pure _
  exact fun raised => rest ambiguous raised rfl

end SnapshotAuthorityEvidence

end VoodooOne
