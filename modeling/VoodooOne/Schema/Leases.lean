import VoodooOne.Schema.Tables

/-!
# Lease tables

Checks, keys and triggers of `execution_leases_v1` and `execution_epoch_state_v1`.  Lease rows are
inserted once and never change; the epoch state of an admission moves only as its guards allow.
-/

namespace VoodooOne

namespace ExecutionLeaseRow

abbrev Checks (row : ExecutionLeaseRow) : Prop :=
  IsDigest row.leaseId ∧ IsDigest row.dispatchId ∧ IsDigest row.admissionDigest ∧
    NonEmpty row.executionId ∧ EnvironmentColumn row.environment ∧
    IsDigest row.executionCapsuleDigest ∧ NonEmpty row.runnerClass ∧ 1 ≤ row.executionEpoch ∧
    NonEmpty row.acquiredAt ∧ NonEmpty row.expiresAt ∧ IsDigest row.clockWitnessDigest ∧
    JsonColumn row.clockWitness ∧ NonEmpty row.leaseRevision ∧ IsDigest row.leaseDigest ∧
    JsonColumn row.lease

abbrev Fresh (row : ExecutionLeaseRow) (db : Database) : Prop :=
  ∀ other ∈ db.executionLeases, other.leaseId ≠ row.leaseId ∧ other.leaseDigest ≠ row.leaseDigest ∧
    ¬(other.admissionId = row.admissionId ∧ other.executionEpoch = row.executionEpoch)

/-- `trg_execution_leases_v1_admission_binding_insert`. -/
abbrev Bound (row : ExecutionLeaseRow) (db : Database) : Prop :=
  ∃ inbox ∈ db.dispatchInbox, inbox.admissionId = row.admissionId ∧
    inbox.dispatchId = row.dispatchId ∧ inbox.admissionDigest = row.admissionDigest ∧
    inbox.executionId = row.executionId ∧ inbox.workspaceId = row.workspaceId ∧
    inbox.environment = row.environment ∧
    inbox.executionCapsuleDigest = row.executionCapsuleDigest ∧
    inbox.runnerClass = row.runnerClass

end ExecutionLeaseRow

def Database.insertLease (db : Database) (row : ExecutionLeaseRow) : Except Raised Database := do
  raiseIf (¬row.Checks) integrityError
  raiseIf (¬row.Fresh db) integrityError
  raiseIf (¬row.Bound db) integrityError
  raiseIf (¬db.HasWorkspace row.workspaceId) integrityError
  return db.setExecutionLeases (db.executionLeases ++ [row])

theorem Database.insertLease_eq_ok {db next : Database} {row : ExecutionLeaseRow}
    (inserted : db.insertLease row = .ok next) :
    next = db.setExecutionLeases (db.executionLeases ++ [row]) ∧ row.Fresh db := by
  simp only [Database.insertLease, bind_eq_ok, raiseIf_eq_ok, not_not, pure_eq_ok] at inserted
  obtain ⟨_, _, _, fresh, _, _, _, _, rfl⟩ := inserted
  exact ⟨rfl, fresh⟩

namespace ExecutionEpochStateRow

abbrev Checks (row : ExecutionEpochStateRow) : Prop :=
  IsDigest row.admissionDigest ∧ NonEmpty row.executionId ∧ EnvironmentColumn row.environment ∧
    IsDigest row.executionCapsuleDigest ∧ NonEmpty row.runnerClass ∧ 1 ≤ row.currentEpoch ∧
    IsDigest row.currentLeaseDigest ∧ NonEmpty row.currentLeaseAcquiredAt ∧
    NonEmpty row.currentLeaseExpiresAt ∧ (∀ digest ∈ row.completionDigest, IsDigest digest) ∧
    (∀ digest ∈ row.completionClockWitnessDigest, IsDigest digest) ∧
    NonEmpty row.authorityRevision ∧ NonEmpty row.updatedAt ∧
    ((row.status = .active ∧ row.completionDigest = none ∧ row.completedAt = none ∧
        row.completionClockWitnessDigest = none ∧ row.completionClockWitness = none) ∨
      (row.status = .completed ∧ row.completionDigest ≠ none ∧ row.completedAt ≠ none ∧
        row.completionClockWitnessDigest ≠ none ∧ row.completionClockWitness ≠ none))

/-- Keys of the table, against the other rows. -/
abbrev Fresh (row : ExecutionEpochStateRow) (others : List ExecutionEpochStateRow) : Prop :=
  ∀ other ∈ others, other.admissionId ≠ row.admissionId ∧
    other.currentLeaseId ≠ row.currentLeaseId ∧
    other.currentLeaseDigest ≠ row.currentLeaseDigest

abbrev RepeatsLease (row : ExecutionEpochStateRow) (db : Database) : Prop :=
  ∃ lease ∈ db.executionLeases, lease.leaseId = row.currentLeaseId ∧
    lease.leaseDigest = row.currentLeaseDigest ∧ lease.admissionId = row.admissionId ∧
    lease.executionEpoch = row.currentEpoch ∧ lease.acquiredAt = row.currentLeaseAcquiredAt ∧
    lease.expiresAt = row.currentLeaseExpiresAt

/-- `trg_execution_epoch_state_v1_insert_guard`. -/
abbrev InsertGuard (row : ExecutionEpochStateRow) (db : Database) : Prop :=
  row.currentEpoch = 1 ∧ row.status = .active ∧
    (∃ inbox ∈ db.dispatchInbox, inbox.admissionId = row.admissionId ∧
      inbox.admissionDigest = row.admissionDigest ∧ inbox.executionId = row.executionId ∧
      inbox.workspaceId = row.workspaceId ∧ inbox.environment = row.environment ∧
      inbox.executionCapsuleDigest = row.executionCapsuleDigest ∧
      inbox.runnerClass = row.runnerClass) ∧
    row.RepeatsLease db

/-- The part of `trg_execution_epoch_state_v1_update_guard` about a new lease. -/
abbrev Reacquires (old new : ExecutionEpochStateRow) (db : Database) : Prop :=
  new.status = .active ∧ new.currentEpoch = old.currentEpoch + 1 ∧
    new.currentLeaseId ≠ old.currentLeaseId ∧ new.currentLeaseDigest ≠ old.currentLeaseDigest ∧
    old.currentLeaseExpiresAt ≤ new.updatedAt ∧ new.completionDigest = none ∧
    new.completedAt = none ∧ new.completionClockWitnessDigest = none ∧
    new.completionClockWitness = none ∧ new.RepeatsLease db

/-- The part of `trg_execution_epoch_state_v1_update_guard` about a completion. -/
abbrev Completes (old new : ExecutionEpochStateRow) : Prop :=
  new.status = .completed ∧ new.currentEpoch = old.currentEpoch ∧
    new.currentLeaseId = old.currentLeaseId ∧ new.currentLeaseDigest = old.currentLeaseDigest ∧
    new.currentLeaseAcquiredAt = old.currentLeaseAcquiredAt ∧
    new.currentLeaseExpiresAt = old.currentLeaseExpiresAt ∧ new.completionDigest ≠ none ∧
    new.completedAt ≠ none ∧
    (∀ completedAt ∈ new.completedAt, old.currentLeaseAcquiredAt ≤ completedAt ∧
      completedAt < old.currentLeaseExpiresAt) ∧
    new.completionClockWitnessDigest ≠ none ∧ new.completionClockWitness ≠ none

/-- `trg_execution_epoch_state_v1_update_guard`. -/
abbrev UpdateGuard (old new : ExecutionEpochStateRow) (db : Database) : Prop :=
  old.status = .active ∧ new.admissionId = old.admissionId ∧
    new.admissionDigest = old.admissionDigest ∧ new.executionId = old.executionId ∧
    new.workspaceId = old.workspaceId ∧ new.environment = old.environment ∧
    new.executionCapsuleDigest = old.executionCapsuleDigest ∧
    new.runnerClass = old.runnerClass ∧ new.authorityRevision = old.authorityRevision ∧
    (Reacquires old new db ∨ Completes old new)

end ExecutionEpochStateRow

namespace Database

/-- `execution_epoch.insert_state`. -/
def insertEpochState (db : Database) (row : ExecutionEpochStateRow) : Except Raised Database := do
  raiseIf (¬row.Checks) integrityError
  raiseIf (¬row.Fresh db.executionEpochState) integrityError
  raiseIf (¬row.InsertGuard db) integrityError
  raiseIf (¬db.HasWorkspace row.workspaceId) integrityError
  return db.setExecutionEpochState (db.executionEpochState ++ [row])

/-- An `UPDATE` of the epoch state of one admission under a condition, with `RETURNING`. -/
def updateEpochState (db : Database) (condition : ExecutionEpochStateRow → Bool)
    (change : ExecutionEpochStateRow → ExecutionEpochStateRow) :
    Except Raised (Option ExecutionEpochStateRow × Database) :=
  match db.executionEpochState.find? condition with
  | none => .ok (none, db)
  | some old => do
      let new := change old
      raiseIf (¬new.Checks) integrityError
      raiseIf (¬new.Fresh (db.executionEpochState.filter (·.admissionId ≠ old.admissionId)))
        integrityError
      raiseIf (¬ExecutionEpochStateRow.UpdateGuard old new db) integrityError
      return (some new,
        db.setExecutionEpochState (Table.replace (·.admissionId) db.executionEpochState new))

theorem insertEpochState_eq_ok {db next : Database} {row : ExecutionEpochStateRow}
    (inserted : db.insertEpochState row = .ok next) :
    next = db.setExecutionEpochState (db.executionEpochState ++ [row]) ∧
      row.Fresh db.executionEpochState ∧ row.InsertGuard db := by
  simp only [insertEpochState, bind_eq_ok, raiseIf_eq_ok, not_not, pure_eq_ok] at inserted
  obtain ⟨_, _, _, fresh, _, guard, _, _, rfl⟩ := inserted
  exact ⟨rfl, fresh, guard⟩

/-- An update that returns a row found it under the condition and passed the guards. -/
theorem updateEpochState_eq_ok {db next : Database} {condition : ExecutionEpochStateRow → Bool}
    {change : ExecutionEpochStateRow → ExecutionEpochStateRow} {new : ExecutionEpochStateRow}
    (updated : db.updateEpochState condition change = .ok (some new, next)) :
    ∃ old ∈ db.executionEpochState, condition old ∧ new = change old ∧
      ExecutionEpochStateRow.UpdateGuard old new db ∧
      next =
        db.setExecutionEpochState (Table.replace (·.admissionId) db.executionEpochState new) := by
  unfold updateEpochState at updated
  split at updated
  · cases updated
  · next old found =>
    simp only [bind_eq_ok, raiseIf_eq_ok, not_not, pure_eq_ok, Prod.mk.injEq, Option.some.injEq]
      at updated
    obtain ⟨_, _, _, _, _, guard, rfl, rfl⟩ := updated
    exact ⟨old, List.mem_of_find?_eq_some found, List.find?_some found, rfl, guard, rfl⟩

end Database

end VoodooOne
