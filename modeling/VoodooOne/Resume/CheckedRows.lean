import Mathlib.Logic.Function.Basic
import VoodooOne.Authorization.SnapshotStore
import VoodooOne.Pipeline.Prepared
import VoodooOne.Resume.Lineage

/-!
# Checked rows

The digest column of a document determines it, and the documents of a row determine its columns.
So two rows that pass the same checks do not differ in a single column.
-/

namespace VoodooOne

/-- `DurableCurrentExecutionFenceDenied`. -/
def currentFenceDenied (reason : String) : Raised := ⟨.durableCurrentExecutionFenceDenied, reason⟩

def ExecutionLease.stateExpected (lease : ExecutionLease) : List (String × ExpectedValue) :=
  [("admission_id", .text lease.admissionId),
    ("admission_digest", .text lease.admissionDigest),
    ("execution_id", .text lease.executionId),
    ("workspace_id", .text lease.workspaceId),
    ("environment", .text lease.environment),
    ("execution_capsule_digest", .text lease.executionCapsuleDigest),
    ("runner_class", .text lease.runnerClass),
    ("current_epoch", .integer lease.executionEpoch),
    ("current_lease_id", .text lease.leaseId),
    ("current_lease_digest", .text lease.leaseDigest),
    ("current_lease_acquired_at", .text lease.acquiredAt),
    ("current_lease_expires_at", .text lease.expiresAt)]

/-- `assert_current` of `DurableCurrentExecutionFence`. -/
def LineageTables.assertCurrent (sha256 : String → String) (floats : FloatRepr)
    (clock : TrustedClockAuthority) (reading : ClockReading) (tables : LineageTables)
    (lease : ExecutionLease) : Except Raised Unit := do
  let state ← orRaise (currentFenceDenied "EPOCH_STATE_NOT_FOUND")
    (tables.epochStates.find? (·.texts "admission_id" = lease.admissionId))
  raiseIf (state.texts "status" ≠ "ACTIVE") (currentFenceDenied "EXECUTION_NOT_ACTIVE")
  state.requireProjection lease.stateExpected
    (currentFenceDenied "CURRENT_EXECUTION_LEASE_MISMATCH")
  let row ← orRaise (currentFenceDenied "CURRENT_LEASE_NOT_FOUND")
    (tables.leases.find? (·.texts "lease_id" = lease.leaseId))
  let persisted ← catching [.typeError, .valueError]
    (currentFenceDenied "CURRENT_LEASE_ROW_INVALID") do
      let raw ← orRaise (valueError "lease_json cannot be decoded")
        (loads floats (row.texts "lease_json"))
      ExecutionLease.fromDict sha256 raw
  raiseIf (persisted ≠ lease) (currentFenceDenied "CURRENT_LEASE_ROW_INVALID")
  row.requireProjection
    (LineageRows.leaseExpected lease ++ [("lease_json", .text (canonicalJson lease.toDict))])
    (currentFenceDenied "CURRENT_LEASE_ROW_INVALID")
  let witness ← clock.witness sha256 lease.environment reading
  lease.assertCompletionFence lease.executionEpoch witness

structure CapabilityTerminalProfileBinding where
  (capability capabilityDefinitionIdentity terminalProfile bindingDigest : String)

/-- `resolve` of `ImmutableCapabilityTerminalProfileRegistry`. -/
def resolveTerminalProfile (bindings : List CapabilityTerminalProfileBinding)
    (capabilityDefinitionIdentity capability : String) :
    Except Raised CapabilityTerminalProfileBinding := do
  let identity ← requireDigest (.str capabilityDefinitionIdentity) "capability_definition_identity"
  let capability ← requireText (.str capability) "capability"
  let binding ← orRaise ⟨.permissionError, "TERMINAL_PROFILE_NOT_ALLOWLISTED"⟩
    (Table.lookup (·.capabilityDefinitionIdentity) bindings identity)
  raiseIf (binding.capability ≠ capability)
    ⟨.permissionError, "TERMINAL_PROFILE_CAPABILITY_MISMATCH"⟩
  return binding

/-- `CanonicalOperationResumeService`, apart from its database. -/
structure CanonicalOperationResumeService where
  permissionAuthorityRevision : String
  terminalProfiles : List CapabilityTerminalProfileBinding
  clock : TrustedClockAuthority
  envelopeRevision : String

namespace CanonicalOperationResumeService

variable (sha256 : String → String) (floats : FloatRepr)
  (service : CanonicalOperationResumeService)

def loadSnapshot (db : Database) (executionId : String) : Except Raised AuthorizationSnapshot :=
  match db.authorizationSnapshots.filter (·.executionId = executionId) with
  | [] => .error (resumeDenied "SNAPSHOT_NOT_FOUND")
  | [row] => catching [.lookupError, .runtimeError, .valueError] (resumeDenied "SNAPSHOT_INVALID")
      (AuthorizationSnapshotStore.get sha256 db row.id)
  | _ => .error (resumeDenied "SNAPSHOT_AMBIGUOUS")

/-- What `resume` does before it reads the lineage. -/
def authorized (db : Database) (actorId executionId : String) :
    Except Raised AuthorizationSnapshot := do
  let actorId ← requireText (.str actorId) "actor_id"
  let executionId ← requireText (.str executionId) "execution_id"
  let snapshot ← loadSnapshot sha256 db executionId
  raiseIf (snapshot.executionId ≠ executionId) (resumeDenied "SNAPSHOT_EXECUTION_MISMATCH")
  raiseIf (snapshot.actorId ≠ actorId) (resumeDenied "ACTOR_MISMATCH")
  let query : PermissionQuery :=
    ⟨actorId, snapshot.workspaceId, snapshot.environment, requiredExecutionPermission⟩
  query.postInit
  let decision ← db.decideDatabasePermission sha256 query service.permissionAuthorityRevision
  raiseIf (decision.granted = false) (resumeDenied "LIVE_EXECUTION_PERMISSION_DENIED")
  return snapshot

def prepared (snapshot : AuthorizationSnapshot) (documents : LineageDocuments)
    (envelope : DispatchEnvelope) (binding : CapabilityTerminalProfileBinding) :
    CanonicalPreparedExecution where
  terminalProfile := binding.terminalProfile
  terminalProfileBindingDigest := binding.bindingDigest
  executionId := documents.grant.executionId
  requestId := documents.grant.requestId
  capability := documents.grant.capability
  capabilityDefinitionIdentity := documents.grant.capabilityDefinitionIdentity
  environment := documents.grant.environment
  targetDigest := documents.grant.targetDigest
  authorizationSnapshotDigest := documents.grant.authorizationSnapshotDigest
  grantDigest := documents.grant.grantDigest
  grantJti := documents.grant.jti
  outboxEntryDigest := documents.outbox.entryDigest
  envelopeDigest := envelope.envelopeDigest
  admissionDigest := documents.admission.admissionDigest
  leaseId := documents.lease.leaseId
  leaseDigest := documents.lease.leaseDigest
  executionEpoch := documents.lease.executionEpoch
  executionCapsuleDigest := documents.lease.executionCapsuleDigest
  snapshot
  grant := documents.grant
  outbox := documents.outbox
  envelope
  admission := documents.admission
  lease := documents.lease

/-- `resume`, where the lineage is in `tables` and the snapshots and permissions are in `db`.  It
writes nothing. -/
def resume (db : Database) (tables : LineageTables) (reading : ClockReading)
    (actorId executionId : String) : Except Raised CanonicalPreparedExecution := do
  let snapshot ← service.authorized sha256 db actorId executionId
  let rows ← tables.rows executionId
  let (documents, envelope) ← rows.validated sha256 floats service.envelopeRevision snapshot
  let binding ← catching [.permissionError, .valueError]
    (resumeDenied "TERMINAL_PROFILE_RESOLUTION_DENIED")
    (resolveTerminalProfile service.terminalProfiles documents.grant.capabilityDefinitionIdentity
      documents.grant.capability)
  catching [.permissionError, .runtimeError, .valueError] (resumeDenied "CURRENT_LEASE_DENIED")
    (tables.assertCurrent sha256 floats service.clock reading documents.lease)
  let prepared := prepared snapshot documents envelope binding
  prepared.postInit
  return prepared

end CanonicalOperationResumeService

namespace StoredRow

inductive ChangesColumn (statement : SelectStatement) (row : StoredRow) : StoredRow → Prop where
  | text (column : String) (listed : column ∈ statement.texts) (value : String)
      (different : value ≠ row.texts column) :
      ChangesColumn statement row { row with texts := Function.update row.texts column value }
  | integer (column : String) (listed : column ∈ statement.integers) (value : Int)
      (different : value ≠ row.integers column) :
      ChangesColumn statement row { row with integers := Function.update row.integers column value }

def textColumns (expected : List (String × ExpectedValue)) : List String :=
  expected.filterMap fun entry => match entry.2 with
    | .text _ => some entry.1
    | .integer _ => none

def integerColumns (expected : List (String × ExpectedValue)) : List String :=
  expected.filterMap fun entry => match entry.2 with
    | .text _ => none
    | .integer _ => some entry.1

def Projects (row : StoredRow) (expected : List (String × ExpectedValue)) : Prop :=
  ∀ entry ∈ expected, row.Holds entry.1 entry.2

variable {statement : SelectStatement} {row altered : StoredRow}
  {expected : List (String × ExpectedValue)} {column other : String}

theorem requireProjection_eq_ok {error : Raised} {result : Unit} :
    row.requireProjection expected error = .ok result ↔ row.Projects expected := by
  simp [requireProjection, Projects]

theorem ChangesColumn.texts_eq (changes : row.ChangesColumn statement altered)
    (distinct : column ≠ other) :
    altered.texts column = row.texts column ∨ altered.texts other = row.texts other := by
  cases changes with
  | text changed listed value different =>
      by_cases same : column = changed
      · subst same
        exact .inr (Function.update_of_ne distinct.symm _ _)
      · exact .inl (Function.update_of_ne same _ _)
  | integer changed listed value different => exact .inl rfl

/-- Two rows that hold the same expected values do not differ in one of these columns. -/
theorem ChangesColumn.absurd (changes : row.ChangesColumn statement altered)
    (own : row.Projects expected) (others : altered.Projects expected)
    (texts : ∀ column ∈ statement.texts, column ∈ textColumns expected)
    (integers : ∀ column ∈ statement.integers, column ∈ integerColumns expected) : False := by
  cases changes with
  | text column listed value different =>
      obtain ⟨⟨_, expectation⟩, member, isText⟩ := List.mem_filterMap.mp (texts column listed)
      cases expectation with
      | integer => cases isText
      | text shown =>
          obtain rfl := Option.some.inj isText
          have holds := others _ member
          simp only [Holds, Function.update_self] at holds
          exact different (holds.trans (own _ member).symm)
  | integer column listed value different =>
      obtain ⟨⟨_, expectation⟩, member, isInteger⟩ :=
        List.mem_filterMap.mp (integers column listed)
      cases expectation with
      | text => cases isInteger
      | integer shown =>
          obtain rfl := Option.some.inj isInteger
          have holds := others _ member
          simp only [Holds, Function.update_self] at holds
          exact different (holds.trans (own _ member).symm)

/-- Where two rows differ in one column, a document with its digest in another column is the same in
both, unless there is a collision. -/
theorem ChangesColumn.document_eq {α : Type} {kind : DocumentKind α} {sha256 : String → String}
    {floats : FloatRepr} {artifact : String} {left right : α}
    (changes : row.ChangesColumn statement altered) (lawful : kind.Lawful sha256)
    (distinct : column ≠ other)
    (leftRead : kind.decodeValue floats artifact (row.texts column) = .ok left)
    (rightRead : kind.decodeValue floats artifact (altered.texts column) = .ok right)
    (leftDigest : row.texts other = kind.digest left)
    (rightDigest : altered.texts other = kind.digest right)
    (free : ¬Collision sha256 (kind.digestText left) (kind.digestText right)) : right = left := by
  have stored : altered.texts column = row.texts column := by
    rcases changes.texts_eq distinct with same | same
    · exact same
    · have digests : kind.digest left = kind.digest right := by
        rw [← leftDigest, ← rightDigest, same]
      exact ((kind.stored_or_collision lawful leftRead rightRead digests).resolve_right free).symm
  rw [stored, leftRead] at rightRead
  exact (Except.ok.inj rightRead).symm

end StoredRow

namespace LineageRows

structure Reads (sha256 : String → String) (floats : FloatRepr) (rows : LineageRows)
    (documents : LineageDocuments) : Prop where
  grant : (ExecutionGrantV2.contract.documentKind sha256).decodeValue floats "GRANT"
    (rows.grant.texts "grant_json") = .ok documents.grant
  issuanceConformance : (ExecutionConformanceWitness.documentKind sha256).decodeValue floats
    "GRANT_ISSUANCE_CONFORMANCE" (rows.grant.texts "issuance_conformance_witness_json") =
      .ok documents.issuanceConformance
  storeClock : (ClockWitness.documentKind sha256).decodeValue floats "GRANT_STORE_CLOCK"
    (rows.grant.texts "store_clock_witness_json") = .ok documents.storeClock
  consumption : (GrantConsumptionWitness.contract.documentKind sha256).decodeValue floats
    "CONSUMPTION" (rows.consumption.texts "consumption_json") = .ok documents.consumption
  conformance : (ExecutionConformanceWitness.documentKind sha256).decodeValue floats
    "CONSUMPTION_CONFORMANCE" (rows.consumption.texts "conformance_witness_json") =
      .ok documents.conformance
  clock : (ClockWitness.documentKind sha256).decodeValue floats "CONSUMPTION_CLOCK"
    (rows.consumption.texts "clock_witness_json") = .ok documents.clock
  outbox : (DispatchOutboxEntry.contract.documentKind sha256).decodeValue floats "OUTBOX"
    (rows.outbox.texts "entry_json") = .ok documents.outbox
  admission : (DispatchInboxAdmission.contract.documentKind sha256).decodeValue floats "INBOX"
    (rows.inbox.texts "admission_json") = .ok documents.admission
  lease : (ExecutionLease.contract.documentKind sha256).decodeValue floats "LEASE"
    (rows.lease.texts "lease_json") = .ok documents.lease
  leaseClock : (ClockWitness.documentKind sha256).decodeValue floats "LEASE_CLOCK"
    (rows.lease.texts "clock_witness_json") = .ok documents.leaseClock

theorem reads_of_documents {sha256 : String → String} {floats : FloatRepr} {rows : LineageRows}
    {documents : LineageDocuments} (read : rows.documents sha256 floats = .ok documents) :
    rows.Reads sha256 floats documents := by
  simp only [LineageRows.documents, bind_eq_ok, pure_eq_ok] at read
  obtain ⟨_, grant, _, issuance, _, store, _, consumption, _, conformance, _, clock, _, outbox, _,
    admission, _, lease, _, leaseClock, rfl⟩ := read
  exact ⟨grant, issuance, store, consumption, conformance, clock, outbox, admission, lease,
    leaseClock⟩

end LineageRows

structure LineageRows.Checked (sha256 : String → String) (floats : FloatRepr) (rows : LineageRows)
    (documents : LineageDocuments) : Prop where
  reads : rows.Reads sha256 floats documents
  grant : rows.grant.Projects (grantExpected documents.grant ++
    grantWitnessesExpected documents.issuanceConformance documents.storeClock)
  consumption : rows.consumption.Projects (consumptionExpected documents.consumption)
  conformance : documents.conformance.witnessDigest = documents.consumption.conformanceWitnessDigest
  clock : documents.clock.witnessDigest = documents.consumption.clockWitnessDigest
  outbox : rows.outbox.Projects (outboxExpected documents.outbox)
  inbox : rows.inbox.Projects (inboxExpected documents.admission)
  lease : rows.lease.Projects (leaseExpected documents.lease)
  leaseClock : documents.leaseClock.witnessDigest = documents.lease.clockWitnessDigest
  active : rows.epochState.texts "status" = "ACTIVE"
  epochState : rows.epochState.Projects (epochStateExpected documents.admission documents.lease)
  sameExecution : ∀ executionId ∈ [documents.consumption.executionId,
    documents.outbox.executionId, documents.admission.executionId, documents.lease.executionId],
      executionId = documents.grant.executionId

namespace LineageRows

variable {sha256 : String → String} {floats : FloatRepr} {rows altered : LineageRows}
  {documents others : LineageDocuments}

theorem documents_of_validated {envelopeRevision : String} {snapshot : AuthorizationSnapshot}
    {envelope : DispatchEnvelope}
    (passed : rows.validated sha256 floats envelopeRevision snapshot = .ok (documents, envelope)) :
    rows.documents sha256 floats = .ok documents := by
  simp only [validated, bind_eq_ok, pure_eq_ok, Prod.mk.injEq] at passed
  obtain ⟨_, read, _, _, _, _, _, _, _, _, _, _, _, _, _, _, _, _, _, _, _, _, _, _, rfl, -⟩ :=
    passed
  exact read

theorem checked_of_validated {envelopeRevision : String} {snapshot : AuthorizationSnapshot}
    {envelope : DispatchEnvelope}
    (passed : rows.validated sha256 floats envelopeRevision snapshot = .ok (documents, envelope)) :
    rows.Checked sha256 floats documents := by
  simp only [validated, bind_eq_ok, StoredRow.requireProjection_eq_ok, pure_eq_ok, Prod.mk.injEq]
    at passed
  obtain ⟨_, read, _, grant, _, grantWitnesses, _, consumption, _, consumptionWitnesses, _, outbox,
    _, inbox, _, lease, _, leaseClock, _, chain, _, _, _, state, rfl, rfl⟩ := passed
  simp only [validateGrantSupportingWitnesses, bind_eq_ok, StoredRow.requireProjection_eq_ok]
    at grantWitnesses
  simp only [validateConsumptionSupportingWitnesses, bind_eq_ok, raiseIf_eq_ok, not_not]
    at consumptionWitnesses
  simp only [LineageDocuments.validateLeaseClock, raiseIf_eq_ok, not_not] at leaseClock
  simp only [LineageDocuments.validateChain, bind_eq_ok, raiseIf_eq_ok, not_not, not_or] at chain
  simp only [validateEpochState, bind_eq_ok, raiseIf_eq_ok, not_not,
    StoredRow.requireProjection_eq_ok] at state
  obtain ⟨_, witnessRow, -⟩ := grantWitnesses
  obtain ⟨_, consumed, -⟩ := consumptionWitnesses
  obtain ⟨_, -, _, -, _, ⟨consumptionBound, -⟩, _, -, _, outboxBound, admissionBound, leaseBound⟩ :=
    chain
  obtain ⟨_, active, epochState⟩ := state
  simp only [witnessConformance, grantConformance, List.cons_append, List.nil_append,
    List.cons.injEq] at consumed
  simp only [List.cons.injEq] at leaseClock consumptionBound outboxBound admissionBound leaseBound
  obtain ⟨conformance, -, -, -, -, -, -, -, clock, -⟩ := consumed
  obtain ⟨-, -, -, consumptionSame, -⟩ := consumptionBound
  obtain ⟨-, -, -, outboxSame, -⟩ := outboxBound
  refine ⟨reads_of_documents read, List.forall_mem_append.mpr ⟨grant, witnessRow⟩, consumption,
    conformance, clock, outbox, inbox, lease, leaseClock.1, active, epochState, ?_⟩
  simp only [List.forall_mem_cons]
  exact ⟨consumptionSame, outboxSame, admissionBound.1.trans outboxSame,
    leaseBound.1.trans outboxSame, List.forall_mem_nil _⟩

theorem Checked.executionId (checked : rows.Checked sha256 floats documents) :
    ∀ row ∈ [rows.grant, rows.consumption, rows.outbox, rows.inbox, rows.epochState, rows.lease],
      row.texts "execution_id" = documents.grant.executionId := by
  have same := checked.sameExecution
  simp only [List.forall_mem_cons] at same ⊢
  obtain ⟨consumption, outbox, admission, lease, -⟩ := same
  refine ⟨checked.grant ("execution_id", .text _) ?_, ?_, ?_, ?_, ?_, ?_, List.forall_mem_nil _⟩
  · simp [grantExpected]
  · exact (checked.consumption ("execution_id", .text _) (by simp [consumptionExpected])).trans
      consumption
  · exact (checked.outbox ("execution_id", .text _) (by simp [outboxExpected])).trans outbox
  · exact (checked.inbox ("execution_id", .text _) (by simp [inboxExpected])).trans admission
  · exact (checked.epochState ("execution_id", .text _) (by simp [epochStateExpected])).trans lease
  · exact (checked.lease ("execution_id", .text _) (by simp [leaseExpected])).trans lease

end LineageRows

def LineageDocuments.digestTexts (sha256 : String → String) (documents : LineageDocuments) :
    List String :=
  let conformanceKind := ExecutionConformanceWitness.documentKind sha256
  let clockKind := ClockWitness.documentKind sha256
  [(ExecutionGrantV2.contract.documentKind sha256).digestText documents.grant,
    conformanceKind.digestText documents.issuanceConformance,
    clockKind.digestText documents.storeClock,
    (GrantConsumptionWitness.contract.documentKind sha256).digestText documents.consumption,
    conformanceKind.digestText documents.conformance,
    clockKind.digestText documents.clock,
    (DispatchOutboxEntry.contract.documentKind sha256).digestText documents.outbox,
    (DispatchInboxAdmission.contract.documentKind sha256).digestText documents.admission,
    (ExecutionLease.contract.documentKind sha256).digestText documents.lease,
    clockKind.digestText documents.leaseClock]

/-- No digested text of one lineage collides with one of the other. -/
def LineageDocuments.Apart (sha256 : String → String) (documents others : LineageDocuments) :
    Prop :=
  ∀ left ∈ documents.digestTexts sha256, ∀ right ∈ others.digestTexts sha256,
    ¬Collision sha256 left right

namespace LineageDocuments

variable (sha256 : String → String) (documents : LineageDocuments)

def jsonColumn {α : Type} (kind : DocumentKind α) (column : String) (value : α) :
    String × ExpectedValue := (column, .text (canonicalJson (kind.toDict value)))

def grantColumns : List (String × ExpectedValue) :=
  LineageRows.grantExpected documents.grant ++
    LineageRows.grantWitnessesExpected documents.issuanceConformance documents.storeClock ++
    [jsonColumn (ExecutionGrantV2.contract.documentKind sha256) "grant_json" documents.grant,
      jsonColumn (ExecutionConformanceWitness.documentKind sha256)
        "issuance_conformance_witness_json" documents.issuanceConformance,
      jsonColumn (ClockWitness.documentKind sha256) "store_clock_witness_json" documents.storeClock]

def consumptionColumns : List (String × ExpectedValue) :=
  LineageRows.consumptionExpected documents.consumption ++
    [jsonColumn (GrantConsumptionWitness.contract.documentKind sha256) "consumption_json"
        documents.consumption,
      jsonColumn (ExecutionConformanceWitness.documentKind sha256) "conformance_witness_json"
        documents.conformance,
      jsonColumn (ClockWitness.documentKind sha256) "clock_witness_json" documents.clock]

def outboxColumns : List (String × ExpectedValue) :=
  LineageRows.outboxExpected documents.outbox ++
    [jsonColumn (DispatchOutboxEntry.contract.documentKind sha256) "entry_json" documents.outbox]

def inboxColumns : List (String × ExpectedValue) :=
  LineageRows.inboxExpected documents.admission ++
    [jsonColumn (DispatchInboxAdmission.contract.documentKind sha256) "admission_json"
      documents.admission]

def leaseColumns : List (String × ExpectedValue) :=
  LineageRows.leaseExpected documents.lease ++
    [jsonColumn (ExecutionLease.contract.documentKind sha256) "lease_json" documents.lease,
      jsonColumn (ClockWitness.documentKind sha256) "clock_witness_json" documents.leaseClock]

def epochStateColumns : List (String × ExpectedValue) :=
  ("status", .text "ACTIVE") ::
    LineageRows.epochStateExpected documents.admission documents.lease

end LineageDocuments

namespace LineageRows

variable {sha256 : String → String} {floats : FloatRepr} {rows altered : LineageRows}
  {documents others : LineageDocuments}

namespace Checked

open LineageDocuments

variable (checked : rows.Checked sha256 floats documents)
include checked

theorem grantColumns : rows.grant.Projects (documents.grantColumns sha256) := by
  refine List.forall_mem_append.mpr ⟨checked.grant, ?_⟩
  simp only [List.forall_mem_cons]
  exact ⟨(DocumentKind.decodeValue_eq_ok checked.reads.grant).1,
    (DocumentKind.decodeValue_eq_ok checked.reads.issuanceConformance).1,
    (DocumentKind.decodeValue_eq_ok checked.reads.storeClock).1, List.forall_mem_nil _⟩

theorem consumptionColumns : rows.consumption.Projects (documents.consumptionColumns sha256) := by
  refine List.forall_mem_append.mpr ⟨checked.consumption, ?_⟩
  simp only [List.forall_mem_cons]
  exact ⟨(DocumentKind.decodeValue_eq_ok checked.reads.consumption).1,
    (DocumentKind.decodeValue_eq_ok checked.reads.conformance).1,
    (DocumentKind.decodeValue_eq_ok checked.reads.clock).1, List.forall_mem_nil _⟩

theorem outboxColumns : rows.outbox.Projects (documents.outboxColumns sha256) := by
  refine List.forall_mem_append.mpr ⟨checked.outbox, ?_⟩
  simp only [List.forall_mem_cons]
  exact ⟨(DocumentKind.decodeValue_eq_ok checked.reads.outbox).1, List.forall_mem_nil _⟩

theorem inboxColumns : rows.inbox.Projects (documents.inboxColumns sha256) := by
  refine List.forall_mem_append.mpr ⟨checked.inbox, ?_⟩
  simp only [List.forall_mem_cons]
  exact ⟨(DocumentKind.decodeValue_eq_ok checked.reads.admission).1, List.forall_mem_nil _⟩

theorem leaseColumns : rows.lease.Projects (documents.leaseColumns sha256) := by
  refine List.forall_mem_append.mpr ⟨checked.lease, ?_⟩
  simp only [List.forall_mem_cons]
  exact ⟨(DocumentKind.decodeValue_eq_ok checked.reads.lease).1,
    (DocumentKind.decodeValue_eq_ok checked.reads.leaseClock).1, List.forall_mem_nil _⟩

theorem epochStateColumns : rows.epochState.Projects documents.epochStateColumns :=
  List.forall_mem_cons.mpr ⟨checked.active, checked.epochState⟩

theorem grantDigest : rows.grant.texts "grant_digest" = documents.grant.grantDigest :=
  checked.grant ("grant_digest", .text _) (by simp [grantExpected])

theorem issuanceConformanceDigest : rows.grant.texts "issuance_conformance_witness_digest" =
    documents.issuanceConformance.witnessDigest :=
  checked.grant ("issuance_conformance_witness_digest", .text _)
    (by simp [grantExpected, grantWitnessesExpected])

theorem storeClockDigest :
    rows.grant.texts "store_clock_witness_digest" = documents.storeClock.witnessDigest :=
  checked.grant ("store_clock_witness_digest", .text _)
    (by simp [grantExpected, grantWitnessesExpected])

theorem consumptionDigest :
    rows.consumption.texts "consumption_digest" = documents.consumption.witnessDigest :=
  checked.consumption ("consumption_digest", .text _) (by simp [consumptionExpected])

theorem conformanceDigest :
    rows.consumption.texts "conformance_witness_digest" = documents.conformance.witnessDigest :=
  (checked.consumption ("conformance_witness_digest", .text _)
    (by simp [consumptionExpected])).trans checked.conformance.symm

theorem clockDigest :
    rows.consumption.texts "clock_witness_digest" = documents.clock.witnessDigest :=
  (checked.consumption ("clock_witness_digest", .text _)
    (by simp [consumptionExpected])).trans checked.clock.symm

theorem outboxDigest : rows.outbox.texts "entry_digest" = documents.outbox.entryDigest :=
  checked.outbox ("entry_digest", .text _) (by simp [outboxExpected])

theorem admissionDigest :
    rows.inbox.texts "admission_digest" = documents.admission.admissionDigest :=
  checked.inbox ("admission_digest", .text _) (by simp [inboxExpected])

theorem leaseDigest : rows.lease.texts "lease_digest" = documents.lease.leaseDigest :=
  checked.lease ("lease_digest", .text _) (by simp [leaseExpected])

theorem leaseClockDigest :
    rows.lease.texts "clock_witness_digest" = documents.leaseClock.witnessDigest :=
  (checked.lease ("clock_witness_digest", .text _) (by simp [leaseExpected])).trans
    checked.leaseClock.symm

theorem currentLeaseDigest :
    rows.epochState.texts "current_lease_digest" = documents.lease.leaseDigest :=
  checked.epochState ("current_lease_digest", .text _) (by simp [epochStateExpected])

end Checked

section Unaltered

open LineageDocuments

variable (checked : rows.Checked sha256 floats documents)
  (again : altered.Checked sha256 floats others) (free : documents.Apart sha256 others)
include checked again free

theorem grant_unaltered
    (changes : rows.grant.ChangesColumn selectGrantByExecution altered.grant) : False := by
  have grant : others.grant = documents.grant :=
    changes.document_eq (ExecutionGrantV2.lawful_documentKind sha256) (by decide)
      checked.reads.grant again.reads.grant checked.grantDigest again.grantDigest
      (free _ (by simp [digestTexts]) _ (by simp [digestTexts]))
  have conformance : others.issuanceConformance = documents.issuanceConformance :=
    changes.document_eq (ExecutionConformanceWitness.lawful_documentKind sha256) (by decide)
      checked.reads.issuanceConformance again.reads.issuanceConformance
      checked.issuanceConformanceDigest again.issuanceConformanceDigest
      (free _ (by simp [digestTexts]) _ (by simp [digestTexts]))
  have clock : others.storeClock = documents.storeClock :=
    changes.document_eq (ClockWitness.lawful_documentKind sha256) (by decide)
      checked.reads.storeClock again.reads.storeClock checked.storeClockDigest
      again.storeClockDigest (free _ (by simp [digestTexts]) _ (by simp [digestTexts]))
  have same : others.grantColumns sha256 = documents.grantColumns sha256 := by
    simp only [LineageDocuments.grantColumns, grant, conformance, clock]
  refine changes.absurd checked.grantColumns (same ▸ again.grantColumns) ?_ ?_
  · simp [selectGrantByExecution, StoredRow.textColumns, LineageDocuments.grantColumns,
      grantExpected, grantWitnessesExpected, jsonColumn]
  · simp [selectGrantByExecution, StoredRow.integerColumns, LineageDocuments.grantColumns,
      grantExpected, grantWitnessesExpected, jsonColumn]

theorem consumption_unaltered
    (changes : rows.consumption.ChangesColumn selectConsumptionById altered.consumption) :
    False := by
  have consumption : others.consumption = documents.consumption :=
    changes.document_eq (GrantConsumptionWitness.lawful_documentKind sha256) (by decide)
      checked.reads.consumption again.reads.consumption checked.consumptionDigest
      again.consumptionDigest (free _ (by simp [digestTexts]) _ (by simp [digestTexts]))
  have conformance : others.conformance = documents.conformance :=
    changes.document_eq (ExecutionConformanceWitness.lawful_documentKind sha256) (by decide)
      checked.reads.conformance again.reads.conformance checked.conformanceDigest
      again.conformanceDigest (free _ (by simp [digestTexts]) _ (by simp [digestTexts]))
  have clock : others.clock = documents.clock :=
    changes.document_eq (ClockWitness.lawful_documentKind sha256) (by decide)
      checked.reads.clock again.reads.clock checked.clockDigest again.clockDigest
      (free _ (by simp [digestTexts]) _ (by simp [digestTexts]))
  have same : others.consumptionColumns sha256 = documents.consumptionColumns sha256 := by
    simp only [LineageDocuments.consumptionColumns, consumption, conformance, clock]
  refine changes.absurd checked.consumptionColumns (same ▸ again.consumptionColumns) ?_ ?_
  · simp [selectConsumptionById, StoredRow.textColumns, LineageDocuments.consumptionColumns,
      consumptionExpected, jsonColumn]
  · simp [selectConsumptionById, StoredRow.integerColumns, LineageDocuments.consumptionColumns,
      consumptionExpected, jsonColumn]

theorem outbox_unaltered
    (changes : rows.outbox.ChangesColumn selectOutboxByExecution altered.outbox) : False := by
  have outbox : others.outbox = documents.outbox :=
    changes.document_eq (DispatchOutboxEntry.lawful_documentKind sha256) (by decide)
      checked.reads.outbox again.reads.outbox checked.outboxDigest again.outboxDigest
      (free _ (by simp [digestTexts]) _ (by simp [digestTexts]))
  have same : others.outboxColumns sha256 = documents.outboxColumns sha256 := by
    simp only [LineageDocuments.outboxColumns, outbox]
  refine changes.absurd checked.outboxColumns (same ▸ again.outboxColumns) ?_ ?_
  · simp [selectOutboxByExecution, StoredRow.textColumns, LineageDocuments.outboxColumns,
      outboxExpected, jsonColumn]
  · simp [selectOutboxByExecution]

theorem inbox_unaltered
    (changes : rows.inbox.ChangesColumn selectInboxByExecution altered.inbox) : False := by
  have admission : others.admission = documents.admission :=
    changes.document_eq (DispatchInboxAdmission.lawful_documentKind sha256) (by decide)
      checked.reads.admission again.reads.admission checked.admissionDigest again.admissionDigest
      (free _ (by simp [digestTexts]) _ (by simp [digestTexts]))
  have same : others.inboxColumns sha256 = documents.inboxColumns sha256 := by
    simp only [LineageDocuments.inboxColumns, admission]
  refine changes.absurd checked.inboxColumns (same ▸ again.inboxColumns) ?_ ?_
  · simp [selectInboxByExecution, StoredRow.textColumns, LineageDocuments.inboxColumns,
      inboxExpected, jsonColumn]
  · simp [selectInboxByExecution]

theorem lease_unaltered
    (changes : rows.lease.ChangesColumn selectLeaseById altered.lease) : False := by
  have lease : others.lease = documents.lease :=
    changes.document_eq (ExecutionLease.lawful_documentKind sha256) (by decide)
      checked.reads.lease again.reads.lease checked.leaseDigest again.leaseDigest
      (free _ (by simp [digestTexts]) _ (by simp [digestTexts]))
  have clock : others.leaseClock = documents.leaseClock :=
    changes.document_eq (ClockWitness.lawful_documentKind sha256) (by decide)
      checked.reads.leaseClock again.reads.leaseClock checked.leaseClockDigest
      again.leaseClockDigest (free _ (by simp [digestTexts]) _ (by simp [digestTexts]))
  have same : others.leaseColumns sha256 = documents.leaseColumns sha256 := by
    simp only [LineageDocuments.leaseColumns, lease, clock]
  refine changes.absurd checked.leaseColumns (same ▸ again.leaseColumns) ?_ ?_
  · simp [selectLeaseById, StoredRow.textColumns, LineageDocuments.leaseColumns, leaseExpected,
      jsonColumn]
  · simp [selectLeaseById, StoredRow.integerColumns, LineageDocuments.leaseColumns, leaseExpected,
      jsonColumn]

/-- The lease is found under an identifier in the epoch state, which also holds its digest. -/
theorem epochState_unaltered (sameInbox : altered.inbox = rows.inbox)
    (sameLease : altered.epochState.texts "current_lease_id" =
      rows.epochState.texts "current_lease_id" → altered.lease = rows.lease)
    (changes : rows.epochState.ChangesColumn selectEpochStateByExecution altered.epochState) :
    False := by
  have admission : others.admission = documents.admission := by
    have read := again.reads.admission
    rw [sameInbox, checked.reads.admission] at read
    exact (Except.ok.inj read).symm
  have lease : others.lease = documents.lease := by
    have distinct : "current_lease_id" ≠ "current_lease_digest" := by decide
    rcases changes.texts_eq distinct with sameId | sameDigest
    · have read := again.reads.lease
      rw [sameLease sameId, checked.reads.lease] at read
      exact (Except.ok.inj read).symm
    · rw [again.currentLeaseDigest, checked.currentLeaseDigest] at sameDigest
      have stored := ((DocumentKind.stored_or_collision
        (ExecutionLease.lawful_documentKind sha256) checked.reads.lease again.reads.lease
        sameDigest.symm).resolve_right
          (free _ (by simp [digestTexts]) _ (by simp [digestTexts])))
      have read := again.reads.lease
      rw [← stored, checked.reads.lease] at read
      exact (Except.ok.inj read).symm
  have same : others.epochStateColumns = documents.epochStateColumns := by
    simp only [LineageDocuments.epochStateColumns, admission, lease]
  refine changes.absurd checked.epochStateColumns (same ▸ again.epochStateColumns) ?_ ?_
  · simp [selectEpochStateByExecution, StoredRow.textColumns, LineageDocuments.epochStateColumns,
      epochStateExpected]
  · simp [selectEpochStateByExecution, StoredRow.integerColumns,
      LineageDocuments.epochStateColumns, epochStateExpected]

end Unaltered

end LineageRows

end VoodooOne
