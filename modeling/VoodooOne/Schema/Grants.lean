import VoodooOne.Grant.ExecutionGrant
import VoodooOne.Schema.Tables

/-!
# Grant, consumption and outbox tables

Checks, keys, references and triggers of `execution_grants_v2`, `grant_consumptions_v1` and
`dispatch_outbox_v1`.  Rows of these tables are inserted once; triggers refuse every update and
deletion, and no statement of the product attempts one.
-/

namespace VoodooOne

namespace ExecutionGrantRow

abbrev Checks (row : ExecutionGrantRow) : Prop :=
  EnvironmentColumn row.environment ∧ IsDigest row.executionCapsuleDigest ∧
    IsDigest row.grantDigest ∧ JsonColumn row.grant ∧
    IsDigest row.issuanceConformanceWitnessDigest ∧ JsonColumn row.issuanceConformanceWitness ∧
    IsDigest row.storeClockWitnessDigest ∧ JsonColumn row.storeClockWitness ∧
    0 ≤ row.revocationEpoch ∧ NonEmpty row.storeRevision

abbrev Fresh (row : ExecutionGrantRow) (db : Database) : Prop :=
  ∀ other ∈ db.executionGrants, other.jti ≠ row.jti ∧ other.grantId ≠ row.grantId ∧
    other.executionId ≠ row.executionId ∧
    other.authorizationSnapshotDigest ≠ row.authorizationSnapshotDigest ∧
    other.grantDigest ≠ row.grantDigest

/-- `trg_execution_grants_v2_snapshot_binding_insert`. -/
abbrev Bound (row : ExecutionGrantRow) (db : Database) : Prop :=
  ∃ snapshot ∈ db.authorizationSnapshots,
    snapshot.snapshotDigest = row.authorizationSnapshotDigest ∧
    snapshot.executionId = row.executionId ∧ snapshot.requestId = row.requestId ∧
    snapshot.workspaceId = row.workspaceId ∧ snapshot.environment = row.environment

end ExecutionGrantRow

/-- `grant_consumption.insert_stored_grant`; the snapshot binding implies its reference. -/
def Database.insertStoredGrant (db : Database) (row : ExecutionGrantRow) :
    Except Raised Database := do
  raiseIf (maxInteger < row.revocationEpoch) integerTooLarge
  raiseIf (¬row.Checks) integrityError
  raiseIf (¬row.Fresh db) integrityError
  raiseIf (¬row.Bound db) integrityError
  raiseIf (¬db.HasChangeRequest row.requestId) integrityError
  raiseIf (¬db.HasWorkspace row.workspaceId) integrityError
  return db.setExecutionGrants (db.executionGrants ++ [row])

theorem Database.insertStoredGrant_eq_ok {db next : Database} {row : ExecutionGrantRow}
    (inserted : db.insertStoredGrant row = .ok next) :
    next = db.setExecutionGrants (db.executionGrants ++ [row]) ∧ row.Fresh db ∧ row.Bound db := by
  simp only [Database.insertStoredGrant, bind_eq_ok, raiseIf_eq_ok, not_not, pure_eq_ok]
    at inserted
  obtain ⟨_, _, _, _, _, fresh, _, bound, _, _, _, _, rfl⟩ := inserted
  exact ⟨rfl, fresh, bound⟩

namespace GrantConsumptionRow

abbrev Checks (row : GrantConsumptionRow) : Prop :=
  IsDigest row.grantDigest ∧ IsDigest row.authorizationSnapshotDigest ∧
    IsDigest row.executionCapsuleDigest ∧ NonEmpty row.runnerClass ∧
    IsDigest row.conformanceWitnessDigest ∧ JsonColumn row.conformanceWitness ∧
    IsDigest row.clockWitnessDigest ∧ JsonColumn row.clockWitness ∧
    0 ≤ row.liveRevocationEpoch ∧ row.serializationContract = "sqlite-begin-immediate/v1" ∧
    NonEmpty row.authorityRevision ∧ IsDigest row.consumptionDigest ∧ JsonColumn row.consumption

abbrev Fresh (row : GrantConsumptionRow) (db : Database) : Prop :=
  ∀ other ∈ db.grantConsumptions, other.consumptionId ≠ row.consumptionId ∧
    other.jti ≠ row.jti ∧ other.grantDigest ≠ row.grantDigest ∧
    other.executionId ≠ row.executionId ∧ other.consumptionDigest ≠ row.consumptionDigest

abbrev Consumes (row : GrantConsumptionRow) (grant : ExecutionGrantRow) : Prop :=
  grant.jti = row.jti ∧ grant.grantDigest = row.grantDigest ∧ grant.executionId = row.executionId ∧
    grant.authorizationSnapshotDigest = row.authorizationSnapshotDigest ∧
    grant.executionCapsuleDigest = row.executionCapsuleDigest

/-- `trg_grant_consumptions_v1_grant_binding_insert`. -/
abbrev Bound (row : GrantConsumptionRow) (db : Database) : Prop :=
  ∃ grant ∈ db.executionGrants, row.Consumes grant

end GrantConsumptionRow

/-- `grant_consumption.insert_consumption`; the grant binding implies its reference. -/
def Database.insertConsumption (db : Database) (row : GrantConsumptionRow) :
    Except Raised Database := do
  raiseIf (maxInteger < row.liveRevocationEpoch) integerTooLarge
  raiseIf (¬row.Checks) integrityError
  raiseIf (¬row.Fresh db) integrityError
  raiseIf (¬row.Bound db) integrityError
  return db.setGrantConsumptions (db.grantConsumptions ++ [row])

theorem Database.insertConsumption_eq_ok {db next : Database} {row : GrantConsumptionRow}
    (inserted : db.insertConsumption row = .ok next) :
    next = db.setGrantConsumptions (db.grantConsumptions ++ [row]) ∧ row.Fresh db ∧
      row.Bound db := by
  simp only [Database.insertConsumption, bind_eq_ok, raiseIf_eq_ok, not_not, pure_eq_ok]
    at inserted
  obtain ⟨_, _, _, _, _, fresh, _, bound, rfl⟩ := inserted
  exact ⟨rfl, fresh, bound⟩

namespace DispatchOutboxRow

abbrev Checks (row : DispatchOutboxRow) : Prop :=
  IsDigest row.consumptionWitnessDigest ∧ IsDigest row.grantDigest ∧
    EnvironmentColumn row.environment ∧ NonEmpty row.capability ∧
    IsDigest row.capabilityDefinitionIdentity ∧ NonEmpty row.targetKind ∧
    IsDigest row.targetDigest ∧ IsDigest row.payloadDigest ∧
    row.requiredPermission = "execution.run" ∧ IsDigest row.executionBindingDigest ∧
    IsDigest row.executionCapsuleDigest ∧ NonEmpty row.runnerClass ∧
    row.preconditionEnforcementClass ∈ preconditionEnforcementClasses ∧
    row.useSemantics = "ONE_TIME" ∧ NonEmpty row.outboxRevision ∧ IsDigest row.entryDigest ∧
    JsonColumn row.entry

abbrev Fresh (row : DispatchOutboxRow) (db : Database) : Prop :=
  ∀ other ∈ db.dispatchOutbox, other.outboxId ≠ row.outboxId ∧
    other.consumptionId ≠ row.consumptionId ∧
    other.consumptionWitnessDigest ≠ row.consumptionWitnessDigest ∧ other.jti ≠ row.jti ∧
    other.grantId ≠ row.grantId ∧ other.grantDigest ≠ row.grantDigest ∧
    other.executionId ≠ row.executionId ∧ other.entryDigest ≠ row.entryDigest

abbrev Dispatches (row : DispatchOutboxRow) (consumption : GrantConsumptionRow) : Prop :=
  consumption.consumptionId = row.consumptionId ∧
    consumption.consumptionDigest = row.consumptionWitnessDigest ∧
    consumption.jti = row.jti ∧ consumption.grantDigest = row.grantDigest ∧
    consumption.executionId = row.executionId ∧
    consumption.authorizationSnapshotDigest = row.authorizationSnapshotDigest ∧
    consumption.executionCapsuleDigest = row.executionCapsuleDigest ∧
    consumption.runnerClass = row.runnerClass ∧ consumption.consumedAt = row.createdAt

abbrev Carries (row : DispatchOutboxRow) (grant : ExecutionGrantRow) : Prop :=
  grant.jti = row.jti ∧ grant.grantId = row.grantId ∧ grant.grantDigest = row.grantDigest ∧
    grant.executionId = row.executionId ∧ grant.requestId = row.requestId ∧
    grant.workspaceId = row.workspaceId ∧ grant.environment = row.environment ∧
    grant.authorizationSnapshotDigest = row.authorizationSnapshotDigest ∧
    grant.executionCapsuleDigest = row.executionCapsuleDigest

/-- `trg_dispatch_outbox_v1_binding_insert`. -/
abbrev Bound (row : DispatchOutboxRow) (db : Database) : Prop :=
  ∃ consumption ∈ db.grantConsumptions, row.Dispatches consumption ∧
    ∃ grant ∈ db.executionGrants, grant.jti = consumption.jti ∧ row.Carries grant

/-- References of the table that the binding does not imply. -/
abbrev References (row : DispatchOutboxRow) (db : Database) : Prop :=
  db.HasChangeRequest row.requestId ∧ db.HasUser row.actorId ∧ db.HasWorkspace row.workspaceId ∧
    ∃ snapshot ∈ db.authorizationSnapshots,
      snapshot.snapshotDigest = row.authorizationSnapshotDigest

end DispatchOutboxRow

/-- `dispatch_outbox.insert`. -/
def Database.insertDispatchOutbox (db : Database) (row : DispatchOutboxRow) :
    Except Raised Database := do
  raiseIf (¬row.Checks) integrityError
  raiseIf (¬row.Fresh db) integrityError
  raiseIf (¬row.Bound db) integrityError
  raiseIf (¬row.References db) integrityError
  return db.setDispatchOutbox (db.dispatchOutbox ++ [row])

theorem Database.insertDispatchOutbox_eq_ok {db next : Database} {row : DispatchOutboxRow}
    (inserted : db.insertDispatchOutbox row = .ok next) :
    next = db.setDispatchOutbox (db.dispatchOutbox ++ [row]) ∧ row.Fresh db ∧ row.Bound db := by
  simp only [Database.insertDispatchOutbox, bind_eq_ok, raiseIf_eq_ok, not_not, pure_eq_ok]
    at inserted
  obtain ⟨_, _, _, fresh, _, bound, _, _, rfl⟩ := inserted
  exact ⟨rfl, fresh, bound⟩

end VoodooOne
