import VoodooOne.Lease.ExecutionLease
import VoodooOne.Library.Transaction
import VoodooOne.Schema.Leases

/-!
# Durable execution leases

The service allocates the epochs of an admission one by one, each with its own lease, and records
at most one completion.  Both calls run inside one write transaction.
-/

namespace VoodooOne

def ExecutionLease.row (lease : ExecutionLease) (clockWitness : Json) : ExecutionLeaseRow where
  leaseId := lease.leaseId
  admissionId := lease.admissionId
  dispatchId := lease.dispatchId
  admissionDigest := lease.admissionDigest
  executionId := lease.executionId
  workspaceId := lease.workspaceId
  environment := lease.environment
  executionCapsuleDigest := lease.executionCapsuleDigest
  runnerClass := lease.runnerClass
  executionEpoch := lease.executionEpoch
  acquiredAt := lease.acquiredAt
  expiresAt := lease.expiresAt
  clockWitnessDigest := lease.clockWitnessDigest
  clockWitness := clockWitness
  leaseRevision := lease.leaseRevision
  leaseDigest := lease.leaseDigest
  lease := lease.toDict

/-- `DurableExecutionLeaseService`, with the conditions its constructor checks. -/
structure DurableExecutionLeaseService where
  /-- Clock of the service. -/
  trustedClock : TrustedClockAuthority
  /-- Duration of its leases. -/
  leaseSeconds : Nat
  /-- Revision written into its leases. -/
  leaseRevision : String
  /-- Revision written into epoch states. -/
  authorityRevision : String
  /-- The duration is bounded. -/
  bounded : 1 ≤ leaseSeconds ∧ leaseSeconds ≤ 3600
  revisions : ValidText leaseRevision ∧ ValidText authorityRevision

inductive LeaseOutcome where
  | leaseAcquired
  | leaseReacquired
deriving DecidableEq, Repr

inductive CompletionOutcome where
  | completed
  | duplicateCompletion
deriving DecidableEq, Repr

structure DurableExecutionLeaseResult where
  /-- Whether the lease is the first of its admission. -/
  outcome : LeaseOutcome
  lease : ExecutionLease
deriving DecidableEq

structure DurableExecutionCompletionResult where
  /-- Whether the completion is new. -/
  outcome : CompletionOutcome
  /-- The completed lease. -/
  lease : ExecutionLease
  completionDigest : String
deriving DecidableEq

namespace DurableExecutionLeaseService

/-- `_deny`. -/
def denied (reason : String) : Raised := ⟨.durableExecutionLeaseDenied, reason⟩

def decodeLease (sha256 : String → String) (row : ExecutionLeaseRow) :
    Except Raised ExecutionLease := do
  let lease ← catching [.typeError, .valueError] (denied "LEASE_ROW_INVALID")
    (ExecutionLease.fromDict sha256 row.lease)
  raiseIf (row.clockWitness.get? "witness_digest" ≠ some (.str lease.clockWitnessDigest))
    (denied "LEASE_ROW_INVALID")
  raiseIf (row ≠ lease.row row.clockWitness) (denied "LEASE_ROW_INVALID")
  return lease

def decodeAdmission (sha256 : String → String) (row : DispatchInboxRow) :
    Except Raised DispatchInboxAdmission := do
  let admission ← catching [.typeError, .valueError] (denied "ADMISSION_ROW_INVALID")
    (DispatchInboxAdmission.fromDict sha256 row.admission)
  raiseIf (row ≠ admission.row) (denied "ADMISSION_ROW_INVALID")
  return admission

def assertStateBound (service : DurableExecutionLeaseService) (state : ExecutionEpochStateRow)
    (admission : DispatchInboxAdmission) : Except Raised Unit :=
  raiseIf ([state.admissionId, state.admissionDigest, state.executionId, state.workspaceId,
      state.environment, state.executionCapsuleDigest, state.runnerClass,
      state.authorityRevision] ≠
    [admission.admissionId, admission.admissionDigest, admission.executionId,
      admission.workspaceId, admission.environment, admission.executionCapsuleDigest,
      admission.runnerClass, service.authorityRevision])
    (denied "EPOCH_STATE_BINDING_INVALID")

def assertStateMatchesLease (state : ExecutionEpochStateRow) (lease : ExecutionLease) :
    Except Raised Unit :=
  raiseIf (¬(state.currentEpoch = lease.executionEpoch ∧ state.currentLeaseId = lease.leaseId ∧
      state.currentLeaseDigest = lease.leaseDigest ∧
      state.currentLeaseAcquiredAt = lease.acquiredAt ∧
      state.currentLeaseExpiresAt = lease.expiresAt))
    (denied "EPOCH_STATE_LEASE_BINDING_INVALID")

def loadLease (sha256 : String → String) (db : Database) (leaseId : String)
    (admission : DispatchInboxAdmission) : Except Raised ExecutionLease := do
  let row ← orRaise (denied "CURRENT_LEASE_NOT_FOUND")
    (Table.lookup (·.leaseId) db.executionLeases leaseId)
  let lease ← decodeLease sha256 row
  lease.assertBoundTo admission
  return lease

/-- The lease that `acquire` supersedes: it must have expired. -/
def previousLease (service : DurableExecutionLeaseService) (sha256 : String → String)
    (db : Database) (admission : DispatchInboxAdmission) (clockWitness : ClockWitness)
    (state : ExecutionEpochStateRow) : Except Raised ExecutionLease := do
  service.assertStateBound state admission
  raiseIf (state.status = .completed) (denied "EXECUTION_ALREADY_COMPLETED")
  let previous ← loadLease sha256 db state.currentLeaseId admission
  assertStateMatchesLease state previous
  raiseIf (clockWitness.observedAt < previous.expiresAt) (denied "LEASE_STILL_ACTIVE")
  return previous

def initialState (service : DurableExecutionLeaseService) (admission : DispatchInboxAdmission)
    (lease : ExecutionLease) (clockWitness : ClockWitness) : ExecutionEpochStateRow where
  admissionId := admission.admissionId
  admissionDigest := admission.admissionDigest
  executionId := admission.executionId
  workspaceId := admission.workspaceId
  environment := admission.environment
  executionCapsuleDigest := admission.executionCapsuleDigest
  runnerClass := admission.runnerClass
  currentEpoch := lease.executionEpoch
  currentLeaseId := lease.leaseId
  currentLeaseDigest := lease.leaseDigest
  currentLeaseAcquiredAt := lease.acquiredAt
  currentLeaseExpiresAt := lease.expiresAt
  status := .active
  completionDigest := none
  completedAt := none
  completionClockWitnessDigest := none
  completionClockWitness := none
  authorityRevision := service.authorityRevision
  updatedAt := clockWitness.observedAt

/-- The `WHERE` clause of both updates: the state is active under this lease. -/
def activeUnder (admissionId : String) (lease : ExecutionLease) (state : ExecutionEpochStateRow) :
    Bool :=
  state.admissionId = admissionId ∧ state.status = .active ∧
    state.currentEpoch = lease.executionEpoch ∧ state.currentLeaseId = lease.leaseId ∧
    state.currentLeaseDigest = lease.leaseDigest

/-- `execution_epoch.reacquire`. -/
def reacquired (lease : ExecutionLease) (clockWitness : ClockWitness)
    (state : ExecutionEpochStateRow) : ExecutionEpochStateRow :=
  { state with
    currentEpoch := lease.executionEpoch
    currentLeaseId := lease.leaseId
    currentLeaseDigest := lease.leaseDigest
    currentLeaseAcquiredAt := lease.acquiredAt
    currentLeaseExpiresAt := lease.expiresAt
    updatedAt := clockWitness.observedAt }

/-- `execution_epoch.complete`. -/
def completedState (completion : String) (clockWitness : ClockWitness)
    (state : ExecutionEpochStateRow) : ExecutionEpochStateRow :=
  { state with
    status := .completed
    completionDigest := some completion
    completedAt := some clockWitness.observedAt
    completionClockWitnessDigest := some clockWitness.witnessDigest
    completionClockWitness := some clockWitness.toDict
    updatedAt := clockWitness.observedAt }

def acquire (service : DurableExecutionLeaseService) (sha256 : String → String)
    (admissionId : String) (reading : ClockReading) (db : Database) :
    Except Raised (DurableExecutionLeaseResult × Database) := do
  let _ ← requireDigest (.str admissionId) "admission_id"
  let admissionRow ← orRaise (denied "ADMISSION_NOT_FOUND")
    (Table.lookup (·.admissionId) db.dispatchInbox admissionId)
  let admission ← decodeAdmission sha256 admissionRow
  let clockWitness ← service.trustedClock.witness sha256 admission.environment reading
  match Table.lookup (·.admissionId) db.executionEpochState admissionId with
  | none =>
      assertNextExecutionEpoch none 1
      let lease ← ExecutionLease.createCandidate sha256 admission 1 clockWitness
        service.leaseSeconds service.leaseRevision
      let db ← catching [.databaseIntegrityError] (denied "LEASE_PERSISTENCE_CONFLICT")
        (db.insertLease (lease.row clockWitness.toDict))
      let db ← catching [.databaseIntegrityError] (denied "EPOCH_STATE_PERSISTENCE_CONFLICT")
        (db.insertEpochState (service.initialState admission lease clockWitness))
      return (⟨.leaseAcquired, lease⟩, db)
  | some state =>
      let previous ← service.previousLease sha256 db admission clockWitness state
      assertNextExecutionEpoch (some state.currentEpoch) (state.currentEpoch + 1)
      let lease ← ExecutionLease.createCandidate sha256 admission (state.currentEpoch + 1)
        clockWitness service.leaseSeconds service.leaseRevision
      let db ← catching [.databaseIntegrityError] (denied "LEASE_PERSISTENCE_CONFLICT")
        (db.insertLease (lease.row clockWitness.toDict))
      let (updated, db) ← db.updateEpochState (activeUnder admission.admissionId previous)
        (reacquired lease clockWitness)
      let _ ← orRaise (denied "EPOCH_STATE_CHANGED_DURING_REACQUIRE") updated
      return (⟨.leaseReacquired, lease⟩, db)

def complete (service : DurableExecutionLeaseService) (sha256 : String → String)
    (leaseId completionDigest : String) (reading : ClockReading) (db : Database) :
    Except Raised (DurableExecutionCompletionResult × Database) := do
  let _ ← requireDigest (.str leaseId) "lease_id"
  let completion ← requireDigest (.str completionDigest) "completion_digest"
  let leaseRow ← orRaise (denied "LEASE_NOT_FOUND")
    (Table.lookup (·.leaseId) db.executionLeases leaseId)
  let lease ← decodeLease sha256 leaseRow
  let admissionRow ← orRaise (denied "ADMISSION_NOT_FOUND")
    (Table.lookup (·.admissionId) db.dispatchInbox lease.admissionId)
  let admission ← decodeAdmission sha256 admissionRow
  lease.assertBoundTo admission
  let state ← orRaise (denied "EPOCH_STATE_NOT_FOUND")
    (Table.lookup (·.admissionId) db.executionEpochState lease.admissionId)
  service.assertStateBound state admission
  if state.currentEpoch ≠ lease.executionEpoch then
    let clock ← service.trustedClock.witness sha256 lease.environment reading
    lease.assertCompletionFence state.currentEpoch clock
    .error (denied "CURRENT_LEASE_ID_MISMATCH")
  else
    raiseIf (state.currentLeaseId ≠ lease.leaseId) (denied "CURRENT_LEASE_ID_MISMATCH")
    assertStateMatchesLease state lease
    if state.status = .completed then
      raiseIf (state.completionDigest ≠ some completion)
        ⟨.durableCompletionConflict, "COMPLETION_DIGEST_CONFLICT"⟩
      return (⟨.duplicateCompletion, lease, completion⟩, db)
    else
      let clockWitness ← service.trustedClock.witness sha256 lease.environment reading
      lease.assertCompletionFence state.currentEpoch clockWitness
      let (updated, db) ← db.updateEpochState (activeUnder lease.admissionId lease)
        (completedState completion clockWitness)
      let _ ← orRaise (denied "EPOCH_STATE_CHANGED_DURING_COMPLETION") updated
      return (⟨.completed, lease, completion⟩, db)

end DurableExecutionLeaseService

open Calendar DurableExecutionLeaseService

structure ExecutionEpochStateRow.Repeats (state : ExecutionEpochStateRow)
    (lease : ExecutionLeaseRow) : Prop where
  /-- Same admission. -/
  admission : lease.admissionId = state.admissionId
  /-- Same epoch. -/
  epoch : lease.executionEpoch = state.currentEpoch
  /-- Same lease. -/
  identity : lease.leaseId = state.currentLeaseId
  /-- Same digest. -/
  digest : lease.leaseDigest = state.currentLeaseDigest
  /-- Same start. -/
  acquired : lease.acquiredAt = state.currentLeaseAcquiredAt
  /-- Same end. -/
  expires : lease.expiresAt = state.currentLeaseExpiresAt

def stateOf (db : Database) (admission : String) : Option ExecutionEpochStateRow :=
  Table.lookup (·.admissionId) db.executionEpochState admission

def granted (db : Database) (lease : ExecutionLeaseRow) (states : List ExecutionEpochStateRow) :
    Database :=
  (db.setExecutionLeases (db.executionLeases ++ [lease])).setExecutionEpochState states

def withEpochState (db : Database) (state : ExecutionEpochStateRow) : Database :=
  db.setExecutionEpochState (Table.replace (·.admissionId) db.executionEpochState state)

structure CompletesState (db : Database) (old new : ExecutionEpochStateRow) (time : Instant) :
    Prop where
  /-- The old state is stored. -/
  current : stateOf db old.admissionId = some old
  /-- The old state was active. -/
  wasActive : old.status = .active
  /-- The new state is completed. -/
  completed : new.status = .completed
  /-- The admission stays. -/
  admission : new.admissionId = old.admissionId
  /-- The current lease stays. -/
  repeated : ∀ lease, old.Repeats lease ↔ new.Repeats lease
  /-- The time of completion. -/
  completedAt : new.completedAt = some time.isoformat
  /-- Completion lies inside the current lease. -/
  inside : old.currentLeaseAcquiredAt ≤ time.isoformat ∧ time.isoformat < old.currentLeaseExpiresAt

/-- What an acquisition that returns normally does to the database. -/
inductive LeaseGrant (db : Database) : Database → Prop where
  /-- The first lease of an admission. -/
  | first (lease : ExecutionLeaseRow) (state : ExecutionEpochStateRow) (acquired expires : Instant)
      (unleased : stateOf db lease.admissionId = none) (fresh : lease.Fresh db)
      (start : lease.acquiredAt = acquired.isoformat) (stop : lease.expiresAt = expires.isoformat)
      (proper : acquired < expires) (epoch : lease.executionEpoch = 1)
      (repeated : state.Repeats lease) (active : state.status = .active) :
      LeaseGrant db (granted db lease (db.executionEpochState ++ [state]))
  /-- The next lease of an admission, once its current lease has ended. -/
  | next (lease : ExecutionLeaseRow) (old new : ExecutionEpochStateRow)
      (acquired expires : Instant) (current : stateOf db lease.admissionId = some old)
      (wasActive : old.status = .active) (fresh : lease.Fresh db)
      (start : lease.acquiredAt = acquired.isoformat) (stop : lease.expiresAt = expires.isoformat)
      (proper : acquired < expires) (expired : old.currentLeaseExpiresAt ≤ acquired.isoformat)
      (epoch : lease.executionEpoch = old.currentEpoch + 1) (repeated : new.Repeats lease)
      (active : new.status = .active) :
      LeaseGrant db (granted db lease (Table.replace (·.admissionId) db.executionEpochState new))

theorem assertNextExecutionEpoch_none {candidate : Int} :
    assertNextExecutionEpoch none candidate = .ok () ↔ candidate = 1 := by
  simp only [assertNextExecutionEpoch, bind_eq_ok, requireEpoch_eq_ok, raiseIf_eq_ok, not_not,
    Json.int.injEq]
  constructor
  · rintro ⟨_, ⟨rfl, _⟩, same⟩
    exact same
  · rintro rfl
    exact ⟨1, by simp, rfl⟩

theorem createCandidate_eq_ok {sha256 : String → String} {admission : DispatchInboxAdmission}
    {epoch : Int} {clockWitness : ClockWitness} {seconds : Nat} {revision : String}
    {lease : ExecutionLease}
    (created : ExecutionLease.createCandidate sha256 admission epoch clockWitness seconds revision =
      .ok lease) :
    ∃ acquired expires : Instant, acquired < expires ∧
      clockWitness.observedAt = acquired.isoformat ∧ lease.acquiredAt = acquired.isoformat ∧
      lease.expiresAt = expires.isoformat ∧ lease.executionEpoch = epoch ∧
      lease.admissionId = admission.admissionId := by
  simp only [ExecutionLease.createCandidate, bind_eq_ok, requireEpoch_eq_ok, raiseIf_eq_ok,
    requireTimestamp_eq_ok, orRaise_eq_ok, Instant.later_eq_some, Json.int.injEq,
    Json.str.injEq, not_or] at created
  obtain ⟨_, ⟨rfl, _⟩, _, ⟨positive, _⟩, _, _, _, _, acquired, ⟨observed, _⟩, expires, later,
    built⟩ := created
  rw [ExecutionLease.contract.eq_of_create ExecutionLease.lawful built]
  exact ⟨acquired, expires, Instant.lt_iff.mpr (by omega), observed, rfl, rfl, rfl, rfl⟩

theorem assertCompletionFence_eq_ok {lease : ExecutionLease} {current : Int}
    {clockWitness : ClockWitness}
    (passed : lease.assertCompletionFence current clockWitness = .ok ()) :
    lease.executionEpoch = current ∧ ∃ acquired expires observed : Instant,
      lease.acquiredAt = acquired.isoformat ∧ lease.expiresAt = expires.isoformat ∧
      clockWitness.observedAt = observed.isoformat ∧ acquired ≤ observed ∧ observed < expires := by
  simp only [ExecutionLease.assertCompletionFence, bind_eq_ok, requireEpoch_eq_ok, raiseIf_eq_ok,
    requireTimestamp_eq_ok, Json.int.injEq, Json.str.injEq, not_lt, not_le] at passed
  obtain ⟨_, ⟨rfl, _⟩, _, _, _, lower, _, upper, acquired, ⟨start, _⟩, expires, ⟨stop, _⟩,
    observed, ⟨time, _⟩, _, after, before⟩ := passed
  exact ⟨le_antisymm lower upper, acquired, expires, observed, start, stop, time, after, before⟩

theorem decodeLease_eq_ok {sha256 : String → String} {row : ExecutionLeaseRow}
    {lease : ExecutionLease} (decoded : decodeLease sha256 row = .ok lease) :
    row = lease.row row.clockWitness := by
  simp only [decodeLease, bind_eq_ok, raiseIf_eq_ok, not_not, pure_eq_ok] at decoded
  obtain ⟨found, _, _, _, _, same, rfl⟩ := decoded
  exact same

theorem decodeAdmission_eq_ok {sha256 : String → String} {row : DispatchInboxRow}
    {admission : DispatchInboxAdmission}
    (decoded : DurableExecutionLeaseService.decodeAdmission sha256 row = .ok admission) :
    row = admission.row := by
  simp only [DurableExecutionLeaseService.decodeAdmission, bind_eq_ok, raiseIf_eq_ok, not_not,
    pure_eq_ok] at decoded
  obtain ⟨found, _, _, same, rfl⟩ := decoded
  exact same

theorem assertBoundTo_eq_ok {lease : ExecutionLease} {admission : DispatchInboxAdmission}
    (bound : lease.assertBoundTo admission = .ok ()) :
    lease.admissionId = admission.admissionId := by
  rw [ExecutionLease.assertBoundTo, raiseIf_eq_ok, not_not] at bound
  simp only [ExecutionLease.bound, List.cons.injEq] at bound
  exact bound.2.1

theorem previousLease_eq_ok {service : DurableExecutionLeaseService} {sha256 : String → String}
    {db : Database} {admission : DispatchInboxAdmission} {clockWitness : ClockWitness}
    {state : ExecutionEpochStateRow} {previous : ExecutionLease}
    (loaded : service.previousLease sha256 db admission clockWitness state = .ok previous) :
    state.currentLeaseExpiresAt = previous.expiresAt ∧
      previous.expiresAt ≤ clockWitness.observedAt := by
  simp only [previousLease, bind_eq_ok, raiseIf_eq_ok, assertStateMatchesLease, not_not, not_lt,
    pure_eq_ok] at loaded
  obtain ⟨_, _, _, _, lease, _, _, ⟨_, _, _, _, same⟩, _, expired, rfl⟩ := loaded
  exact ⟨same, expired⟩

theorem acquire_grant {service : DurableExecutionLeaseService} {sha256 : String → String}
    {admissionId : String} {reading : ClockReading} {db next : Database}
    {result : DurableExecutionLeaseResult}
    (keyed : Table.Keyed (·.admissionId) db.executionEpochState)
    (returned : service.acquire sha256 admissionId reading db = .ok (result, next)) :
    LeaseGrant db next := by
  simp only [acquire, bind_eq_ok, orRaise_eq_ok] at returned
  obtain ⟨_, _, admissionRow, foundRow, admission, decoded, clockWitness, _, rest⟩ := returned
  have admissionSame : admission.admissionId = admissionId := by
    have row := decodeAdmission_eq_ok decoded
    rw [← (Table.mem_of_lookup foundRow).2, row]
    rfl
  cases current : Table.lookup (·.admissionId) db.executionEpochState admissionId with
  | none =>
      simp only [current, bind_eq_ok, catching_eq_ok, pure_eq_ok, Prod.mk.injEq] at rest
      obtain ⟨_, _, lease, created, middle, inserted, last, stateInserted, rfl, rfl⟩ := rest
      obtain ⟨acquired, expires, proper, _, start, stop, epoch, same⟩ :=
        createCandidate_eq_ok created
      obtain ⟨rfl, fresh⟩ := Database.insertLease_eq_ok inserted
      obtain ⟨rfl, _⟩ := Database.insertEpochState_eq_ok stateInserted
      refine .first (lease.row clockWitness.toDict) _ acquired expires ?_ fresh start stop proper
        epoch ⟨same, rfl, rfl, rfl, rfl, rfl⟩ rfl
      change stateOf db lease.admissionId = none
      rw [same, admissionSame]
      exact current
  | some state =>
      simp only [current, bind_eq_ok, catching_eq_ok, orRaise_eq_ok, pure_eq_ok,
        Prod.mk.injEq] at rest
      obtain ⟨previous, loaded, _, _, lease, created, middle, inserted, ⟨updated, last⟩, update,
        new, rfl, rfl, rfl⟩ := rest
      obtain ⟨acquired, expires, proper, observed, start, stop, epoch, leaseSame⟩ :=
        createCandidate_eq_ok created
      obtain ⟨rfl, fresh⟩ := Database.insertLease_eq_ok inserted
      obtain ⟨old, oldMember, condition, rfl, guard, rfl⟩ :=
        Database.updateEpochState_eq_ok update
      simp only [activeUnder, decide_eq_true_eq] at condition
      obtain rfl : old = state := by
        obtain ⟨stateMember, stateSame⟩ := Table.mem_of_lookup current
        exact keyed.unique oldMember stateMember
          (condition.1.trans (admissionSame.trans stateSame.symm))
      obtain ⟨ends, expired⟩ := previousLease_eq_ok loaded
      refine .next (lease.row clockWitness.toDict) old _ acquired expires ?_ condition.2.1 fresh
        start stop proper ?_ epoch ⟨?_, rfl, rfl, rfl, rfl, rfl⟩ condition.2.1
      · change stateOf db lease.admissionId = some old
        rw [leaseSame, admissionSame]
        exact current
      · rw [ends, ← observed]
        exact expired
      · exact leaseSame.trans condition.1.symm

theorem complete_current {service : DurableExecutionLeaseService} {sha256 : String → String}
    {leaseId digest : String} {reading : ClockReading} {db next : Database}
    {result : DurableExecutionCompletionResult}
    (keyed : Table.Keyed (·.admissionId) db.executionEpochState)
    (returned : service.complete sha256 leaseId digest reading db = .ok (result, next)) :
    ∃ lease ∈ db.executionLeases, lease.leaseId = leaseId ∧ result.lease.leaseId = leaseId ∧
      result.lease.admissionId = lease.admissionId ∧
      ∃ old, stateOf db lease.admissionId = some old ∧ old.Repeats lease ∧
        ((result.outcome = .duplicateCompletion ∧ next = db) ∨
          (result.outcome = .completed ∧ ∃ new time, CompletesState db old new time ∧
            next = withEpochState db new)) := by
  simp only [complete, bind_eq_ok, orRaise_eq_ok] at returned
  obtain ⟨_, _, completion, _, leaseRow, foundLease, lease, decoded, admissionRow, foundRow,
    admission, _, _, bound, state, current, _, _, rest⟩ := returned
  have row := decodeLease_eq_ok decoded
  split at rest
  · simp only [bind_eq_ok, reduceCtorEq, and_false, exists_false] at rest
  · simp only [bind_eq_ok, assertStateMatchesLease, raiseIf_eq_ok, not_not] at rest
    obtain ⟨_, _, _, ⟨sameEpoch, sameId, sameDigest, sameStart, sameStop⟩, rest⟩ := rest
    obtain ⟨leaseMember, leaseSame⟩ := Table.mem_of_lookup foundLease
    obtain ⟨stateMember, stateSame⟩ := Table.mem_of_lookup current
    have repeats : state.Repeats leaseRow := by
      rw [row]
      exact ⟨stateSame.symm, sameEpoch.symm, sameId.symm, sameDigest.symm, sameStart.symm,
        sameStop.symm⟩
    have found : stateOf db leaseRow.admissionId = some state := by
      rw [stateOf, row]
      exact current
    have identity : lease.leaseId = leaseId := by
      rw [← leaseSame, row]
      rfl
    have admissionSame : lease.admissionId = leaseRow.admissionId := by
      rw [row]
      rfl
    split at rest
    · simp only [bind_eq_ok, pure_eq_ok, Prod.mk.injEq] at rest
      obtain ⟨_, _, rfl, rfl⟩ := rest
      exact ⟨leaseRow, leaseMember, leaseSame, identity, admissionSame, state, found, repeats,
        .inl ⟨rfl, rfl⟩⟩
    · simp only [bind_eq_ok, orRaise_eq_ok, pure_eq_ok, Prod.mk.injEq] at rest
      obtain ⟨clockWitness, _, _, fence, ⟨updated, last⟩, update, new, rfl, rfl, rfl⟩ := rest
      obtain ⟨old, oldMember, condition, rfl, guard, rfl⟩ :=
        Database.updateEpochState_eq_ok update
      simp only [activeUnder, decide_eq_true_eq] at condition
      obtain rfl : old = state :=
        keyed.unique oldMember stateMember (condition.1.trans stateSame.symm)
      obtain ⟨_, acquired, expires, observed, start, stop, time, after, before⟩ :=
        assertCompletionFence_eq_ok fence
      refine ⟨leaseRow, leaseMember, leaseSame, identity, admissionSame, old, found, repeats,
        .inr ⟨rfl, completedState completion clockWitness old, observed,
          ⟨?_, condition.2.1, rfl, rfl, fun lease => ?_, ?_, ?_⟩, rfl⟩⟩
      · rw [stateOf, stateSame]
        exact current
      · exact ⟨fun same => ⟨same.admission, same.epoch, same.identity, same.digest,
          same.acquired, same.expires⟩, fun same => ⟨same.admission, same.epoch, same.identity,
          same.digest, same.acquired, same.expires⟩⟩
      · exact congrArg some time
      · rw [sameStart, sameStop, start, stop]
        exact ⟨Instant.isoformat_le_isoformat.mpr after, Instant.isoformat_lt_isoformat.mpr before⟩

end VoodooOne
