import VoodooOne.Dispatch.Envelope
import VoodooOne.Schema.Rows

/-!
# Dispatch inbox admissions

An admission records that the inbox accepted one envelope of one outbox entry.
-/

namespace VoodooOne

structure DispatchInboxAdmission where
  (admissionId dispatchId envelopeDigest : String)
  /-- The admitted outbox entry. -/
  (outboxId outboxEntryDigest : String)
  (executionId workspaceId environment : String)
  (executionCapsuleDigest runnerClass : String)
  (admissionRevision admissionDigest : String)
deriving DecidableEq, Repr

def admissionId (sha256 : String → String) (dispatchId envelopeDigest outboxEntryDigest : String) :
    String :=
  digestOf sha256 (.object [("identity_type", .str "dispatch-inbox-admission-id/v1"),
    ("dispatch_id", .str dispatchId), ("envelope_digest", .str envelopeDigest),
    ("outbox_entry_digest", .str outboxEntryDigest)])

namespace DispatchInboxAdmission

/-- `_claims_without_digest`, apart from version and type. -/
def claims (admission : DispatchInboxAdmission) : List (String × Json) :=
  [("admission_id", .str admission.admissionId),
    ("dispatch_id", .str admission.dispatchId),
    ("envelope_digest", .str admission.envelopeDigest),
    ("outbox_id", .str admission.outboxId),
    ("outbox_entry_digest", .str admission.outboxEntryDigest),
    ("execution_id", .str admission.executionId),
    ("workspace_id", .str admission.workspaceId),
    ("environment", .str admission.environment),
    ("execution_capsule_digest", .str admission.executionCapsuleDigest),
    ("runner_class", .str admission.runnerClass),
    ("admission_revision", .str admission.admissionRevision)]

def ofAttributes (self : Attributes) : DispatchInboxAdmission where
  admissionId := self.text "admission_id"
  dispatchId := self.text "dispatch_id"
  envelopeDigest := self.text "envelope_digest"
  outboxId := self.text "outbox_id"
  outboxEntryDigest := self.text "outbox_entry_digest"
  executionId := self.text "execution_id"
  workspaceId := self.text "workspace_id"
  environment := self.text "environment"
  executionCapsuleDigest := self.text "execution_capsule_digest"
  runnerClass := self.text "runner_class"
  admissionRevision := self.text "admission_revision"
  admissionDigest := self.text "admission_digest"

def contract : Contract DispatchInboxAdmission where
  contractType := "dispatch-inbox-admission/v1"
  typeField := "admission_type"
  digestField := "admission_digest"
  mismatch := "admission_digest does not match dispatch inbox admission"
  attributes :=
    ["admission_id", "dispatch_id", "envelope_digest", "outbox_id", "outbox_entry_digest",
      "execution_id", "workspace_id", "environment", "execution_capsule_digest", "runner_class",
      "admission_revision"].map fun field => (field, .text)
  checks :=
    requireTexts ["outbox_id", "execution_id", "workspace_id", "environment", "runner_class",
      "admission_revision"] ++
    requireDigests ["admission_id", "dispatch_id", "envelope_digest", "outbox_entry_digest",
      "execution_capsule_digest", "admission_digest"]
  ofAttributes := ofAttributes
  claims := claims
  digest := admissionDigest
  withDigest admission digest := { admission with admissionDigest := digest }
  check sha256 admission :=
    raiseIf (admission.admissionId ≠ VoodooOne.admissionId sha256 admission.dispatchId
        admission.envelopeDigest admission.outboxEntryDigest)
      (valueError "admission_id does not bind the accepted dispatch content")

theorem lawful : contract.Lawful where
  ofAttributes_eq self admission digest same := by
    simp only [contract, claims, List.cons_append, List.nil_append, List.forall_mem_cons] at same
    simp [contract, ofAttributes, Attributes.text, Json.text?, same]

/-- The admission of an envelope of an outbox entry, before its digest is set. -/
def draft (sha256 : String → String) (envelope : DispatchEnvelope) (entry : DispatchOutboxEntry)
    (admissionRevision : String) : DispatchInboxAdmission where
  admissionId := VoodooOne.admissionId sha256 envelope.dispatchId envelope.envelopeDigest
    entry.entryDigest
  dispatchId := envelope.dispatchId
  envelopeDigest := envelope.envelopeDigest
  outboxId := entry.outboxId
  outboxEntryDigest := entry.entryDigest
  executionId := entry.executionId
  workspaceId := entry.workspaceId
  environment := entry.environment
  executionCapsuleDigest := entry.executionCapsuleDigest
  runnerClass := entry.runnerClass
  admissionRevision := admissionRevision
  admissionDigest := ""

def create (sha256 : String → String) (envelope : DispatchEnvelope) (entry : DispatchOutboxEntry)
    (admissionRevision : String) : Except Raised DispatchInboxAdmission := do
  let _ ← requireText (.str admissionRevision) "admission_revision"
  envelope.assertBoundTo sha256 entry
  contract.create sha256 (draft sha256 envelope entry admissionRevision)

def toDict (admission : DispatchInboxAdmission) : Json :=
  contract.toDict admission

def fromDict (sha256 : String → String) (value : Json) : Except Raised DispatchInboxAdmission :=
  contract.fromDict sha256 value

def row (admission : DispatchInboxAdmission) : DispatchInboxRow where
  admissionId := admission.admissionId
  dispatchId := admission.dispatchId
  envelopeDigest := admission.envelopeDigest
  outboxId := admission.outboxId
  outboxEntryDigest := admission.outboxEntryDigest
  executionId := admission.executionId
  workspaceId := admission.workspaceId
  environment := admission.environment
  executionCapsuleDigest := admission.executionCapsuleDigest
  runnerClass := admission.runnerClass
  admissionRevision := admission.admissionRevision
  admissionDigest := admission.admissionDigest
  admission := admission.toDict

/-- The attributes that an admission takes from its envelope and outbox entry. -/
def bound (admission : DispatchInboxAdmission) : List String :=
  [admission.dispatchId, admission.envelopeDigest, admission.outboxId,
    admission.outboxEntryDigest, admission.executionId, admission.workspaceId,
    admission.environment, admission.executionCapsuleDigest, admission.runnerClass]

def assertBoundTo (sha256 : String → String) (admission : DispatchInboxAdmission)
    (envelope : DispatchEnvelope) (entry : DispatchOutboxEntry) : Except Raised Unit := do
  envelope.assertBoundTo sha256 entry
  raiseIf (admission.bound ≠ [envelope.dispatchId, envelope.envelopeDigest, entry.outboxId,
      entry.entryDigest, entry.executionId, entry.workspaceId, entry.environment,
      entry.executionCapsuleDigest, entry.runnerClass])
    ⟨.permissionError, "dispatch inbox admission does not bind supplied content"⟩

/-- `classify_redelivery`; the only normal outcome is `DUPLICATE`. -/
def classifyRedelivery (sha256 : String → String) (admission : DispatchInboxAdmission)
    (envelope : DispatchEnvelope) (entry : DispatchOutboxEntry) : Except Raised Unit := do
  envelope.assertBoundTo sha256 entry
  raiseIf (envelope.dispatchId ≠ admission.dispatchId)
    (valueError "redelivery dispatch_id does not match admitted dispatch")
  catching [.permissionError] ⟨.dispatchInboxContentConflict, "DISPATCH_CONTENT_CONFLICT"⟩
    (admission.assertBoundTo sha256 envelope entry)

end DispatchInboxAdmission

end VoodooOne
