import VoodooOne.Lease.Guards
import VoodooOne.Schema.Grants
import VoodooOne.Verification.Result

/-!
# Stored verification results

The store keeps one result of an execution.  Whatever leases are acquired and completed and whatever
results are stored, in any order, a stored result stays and names the completion of its execution.
-/

namespace VoodooOne

namespace DurableVerificationResultStore

/-- `VerificationResultPersistenceDenied`. -/
def denied (reason : String) : Raised := ⟨.verificationResultPersistenceDenied, reason⟩

/-- `VerificationResultPersistenceConflict`. -/
def conflict : Raised := ⟨.verificationResultPersistenceConflict, "VERIFICATION_RESULT_CONFLICT"⟩

def decodeRow (sha256 : String → String) (row : VerificationResultRow) :
    Except Raised VerificationResult := do
  let result ← catching [.keyError, .typeError, .valueError]
    (denied "VERIFICATION_RESULT_ROW_INVALID") (VerificationResult.fromDict sha256 row.result)
  raiseIf (row ≠ { result.row with result := row.result })
    (denied "VERIFICATION_RESULT_ROW_BINDING_INVALID")
  return result

def store (sha256 : String → String) (result : VerificationResult) (db : Database) :
    Except Raised (VerificationResult × Database) :=
  match Table.lookup (·.executionId) db.verificationResults result.executionId with
  | some row => do
      let existing ← decodeRow sha256 row
      raiseIf (existing ≠ result) conflict
      return (existing, db)
  | none => do
      let db ← catching [.databaseIntegrityError] (denied "VERIFICATION_RESULT_PERSISTENCE_DENIED")
        (db.insertVerificationResult result.row)
      return (result, db)

theorem decodeRow_row {sha256 : String → String} {result : VerificationResult}
    (built : VerificationResult.contract.Built sha256 result) :
    decodeRow sha256 result.row = .ok result := by
  obtain ⟨self, constructed⟩ := built
  have read : VerificationResult.fromDict sha256 result.row.result = .ok result :=
    Contract.fromDict_toDict VerificationResult.lawful constructed
  simp only [decodeRow, bind_eq_ok, catching_eq_ok, raiseIf_eq_ok, pure_eq_ok, not_not]
  exact ⟨result, read, (), rfl, rfl⟩

/-- What a call of `store` that returns normally does. -/
theorem store_eq_ok {sha256 : String → String} {result returned : VerificationResult}
    {db next : Database} (stored : store sha256 result db = .ok (returned, next)) :
    next = db ∨ (next = db.setVerificationResults (db.verificationResults ++ [result.row]) ∧
      result.row.Fresh db ∧ result.row.Bound db) := by
  unfold store at stored
  split at stored
  · simp only [bind_eq_ok, pure_eq_ok, Prod.mk.injEq] at stored
    obtain ⟨_, -, _, -, -, rfl⟩ := stored
    exact .inl rfl
  · simp only [bind_eq_ok, catching_eq_ok, pure_eq_ok, Prod.mk.injEq] at stored
    obtain ⟨_, inserted, -, rfl⟩ := stored
    exact .inr (Database.insertVerificationResult_eq_ok inserted)

theorem store_again {sha256 : String → String} {result other : VerificationResult} {db : Database}
    (built : VerificationResult.contract.Built sha256 result)
    (found : Table.lookup (·.executionId) db.verificationResults other.executionId =
      some result.row) :
    Transaction.commit (store sha256 other) db =
      (if other = result then .ok result else .error conflict, db) := by
  by_cases same : other = result
  · have returned : store sha256 other db = .ok (result, db) := by
      rw [store, found]
      simp only [bind_eq_ok, raiseIf_eq_ok, not_not, pure_eq_ok]
      exact ⟨result, decodeRow_row built, (), same.symm, rfl⟩
    rw [Transaction.commit_of_ok returned, if_pos same]
  · have raised : store sha256 other db = .error conflict := by
      rw [store, found]
      dsimp only
      rw [decodeRow_row built, ok_bind, raiseIf, if_pos (Ne.symm same)]
      rfl
    rw [Transaction.commit_of_error raised, if_neg same]

end DurableVerificationResultStore

/-- One call of a run.  `enqueue` and `admit` insert any row that outbox and inbox accept;
`elsewhere` lets the other tables change in any way. -/
inductive VerificationCall (sha256 : String → String) where
  | lease (call : LeaseCall)
  | store (result : VerificationResult)
      (built : VerificationResult.contract.Built sha256 result)
  | enqueue (row : DispatchOutboxRow)
  | accept (row : DispatchInboxRow)
  | elsewhere (other : Database)

/-- The tables of `other` with the tables of dispatch, leases and results of the database. -/
def Database.withExecutionTables (db other : Database) : Database :=
  ((((other.setDispatchOutbox db.dispatchOutbox).setDispatchInbox
    db.dispatchInbox).setExecutionLeases db.executionLeases).setExecutionEpochState
    db.executionEpochState).setVerificationResults db.verificationResults

def VerificationCall.next {sha256 : String → String} (db : Database) :
    VerificationCall sha256 → Database
  | .lease call => (LeaseWorld.step sha256 ⟨db, []⟩ call).db
  | .store result _ =>
      (Transaction.commit (DurableVerificationResultStore.store sha256 result) db).2
  | .enqueue row => (db.insertDispatchOutbox row).toOption.getD db
  | .accept row => (db.insertDispatchInbox row).toOption.getD db
  | .elsewhere other => db.withExecutionTables other

/-- A store without outbox rows, admissions, leases and results. -/
def VerificationCall.start (store : Database) : Database :=
  (LeaseWorld.start
    (((store.setDispatchOutbox []).setDispatchInbox []).setVerificationResults [])).db

/-- What every call keeps. -/
structure VerificationInvariant (sha256 : String → String) (db : Database) : Prop where
  tables : EpochTables db
  outboxKeys : Table.Keyed (·.executionId) db.dispatchOutbox
  inboxKeys : Table.Keyed (·.outboxId) db.dispatchInbox
  admits : ∀ row ∈ db.dispatchInbox, row.Bound db
  resultKeys : Table.Keyed (·.executionId) db.verificationResults
  built : ∀ row ∈ db.verificationResults, ∃ result,
    VerificationResult.contract.Built sha256 result ∧ row = result.row
  bound : ∀ row ∈ db.verificationResults, row.Bound db

/-- Effect of a call on the tables. -/
inductive VerificationStep (sha256 : String → String) (db : Database) : Database → Prop where
  | elsewhere (other : Database) : VerificationStep sha256 db (db.withExecutionTables other)
  | leases (middle next : Database) (first : StatementEffect db middle)
      (second : StatementEffect middle next) : VerificationStep sha256 db next
  | enqueued (row : DispatchOutboxRow) (fresh : row.Fresh db) :
      VerificationStep sha256 db (db.setDispatchOutbox (db.dispatchOutbox ++ [row]))
  | admitted (row : DispatchInboxRow) (fresh : row.Fresh db) (bound : row.Bound db) :
      VerificationStep sha256 db (db.setDispatchInbox (db.dispatchInbox ++ [row]))
  | stored (result : VerificationResult)
      (built : VerificationResult.contract.Built sha256 result) (fresh : result.row.Fresh db)
      (bound : result.row.Bound db) :
      VerificationStep sha256 db
        (db.setVerificationResults (db.verificationResults ++ [result.row]))

theorem VerificationCall.step {sha256 : String → String} (db : Database)
    (call : VerificationCall sha256) : VerificationStep sha256 db (call.next db) := by
  have nothing : VerificationStep sha256 db db := .leases db db .unchanged .unchanged
  cases call with
  | lease call =>
      obtain ⟨middle, first, second⟩ := LeaseWorld.step_effects ⟨db, []⟩ call
      exact .leases middle _ first second
  | store result built =>
      refine Transaction.commit_cases (motive := VerificationStep sha256 db) _ db nothing
        fun returned next stored => ?_
      rcases DurableVerificationResultStore.store_eq_ok stored with rfl | ⟨rfl, fresh, bound⟩
      · exact nothing
      · exact .stored result built fresh bound
  | enqueue row =>
      cases inserted : db.insertDispatchOutbox row with
      | error error =>
          simp only [next, inserted]
          exact nothing
      | ok after =>
          obtain ⟨rfl, fresh, -⟩ := Database.insertDispatchOutbox_eq_ok inserted
          simp only [next, inserted]
          exact .enqueued row fresh
  | accept row =>
      cases inserted : db.insertDispatchInbox row with
      | error error =>
          simp only [next, inserted]
          exact nothing
      | ok after =>
          obtain ⟨rfl, fresh, bound⟩ := Database.insertDispatchInbox_eq_ok inserted
          simp only [next, inserted]
          exact .admitted row fresh bound
  | elsewhere other => exact .elsewhere other

theorem StatementEffect.beside {db next : Database} (effect : StatementEffect db next) :
    next.dispatchOutbox = db.dispatchOutbox ∧ next.dispatchInbox = db.dispatchInbox ∧
      next.verificationResults = db.verificationResults := by
  cases effect <;> exact ⟨rfl, rfl, rfl⟩

namespace VerificationInvariant

variable {sha256 : String → String} {db next : Database}

theorem start (store : Database) : VerificationInvariant sha256 (VerificationCall.start store) where
  tables := EpochTables.start _
  outboxKeys := Table.keyed_nil
  inboxKeys := Table.keyed_nil
  admits := List.forall_mem_nil _
  resultKeys := Table.keyed_nil
  built := List.forall_mem_nil _
  bound := List.forall_mem_nil _

/-- A statement on the lease tables keeps a completed state. -/
theorem leases (invariant : VerificationInvariant sha256 db) (effect : StatementEffect db next) :
    VerificationInvariant sha256 next := by
  obtain ⟨outbox, inbox, results⟩ := effect.beside
  refine ⟨invariant.tables.step effect, ?_, ?_, ?_, ?_, ?_, ?_⟩
  · rw [outbox]
    exact invariant.outboxKeys
  · rw [inbox]
    exact invariant.inboxKeys
  · simp only [DispatchInboxRow.Bound, outbox, inbox]
    exact invariant.admits
  · rw [results]
    exact invariant.resultKeys
  · rw [results]
    exact invariant.built
  · rw [results]
    intro row member
    obtain ⟨entry, entryStored, state, stored, verifies⟩ := invariant.bound row member
    have found : stateOf db state.admissionId = some state :=
      invariant.tables.stateKeys.lookup_of_mem stored
    obtain ⟨new, foundNew, moves⟩ :=
      (TablesProgress.step invariant.tables effect).states _ state found
    obtain rfl := ExecutionEpochStateRow.Moves.eq_of_completed moves verifies.2.2.2.2.1
    exact ⟨entry, outbox ▸ entryStored, new, (Table.mem_of_lookup foundNew).1, verifies⟩

theorem enqueued (invariant : VerificationInvariant sha256 db) {row : DispatchOutboxRow}
    (fresh : row.Fresh db) :
    VerificationInvariant sha256 (db.setDispatchOutbox (db.dispatchOutbox ++ [row])) where
  tables := invariant.tables.beside rfl rfl (List.Subset.refl _)
  outboxKeys := invariant.outboxKeys.append fun other member =>
    (fresh other member).2.2.2.2.2.2.1
  inboxKeys := invariant.inboxKeys
  admits admission member := by
    obtain ⟨entry, stored, admits⟩ := invariant.admits admission member
    exact ⟨entry, List.mem_append_left _ stored, admits⟩
  resultKeys := invariant.resultKeys
  built := invariant.built
  bound result member := by
    obtain ⟨entry, stored, state, completed, verifies⟩ := invariant.bound result member
    exact ⟨entry, List.mem_append_left _ stored, state, completed, verifies⟩

theorem admitted (invariant : VerificationInvariant sha256 db) {row : DispatchInboxRow}
    (fresh : row.Fresh db) (bound : row.Bound db) :
    VerificationInvariant sha256 (db.setDispatchInbox (db.dispatchInbox ++ [row])) where
  tables := invariant.tables.beside rfl rfl (List.subset_append_left _ _)
  outboxKeys := invariant.outboxKeys
  inboxKeys := invariant.inboxKeys.append fun other member => (fresh other member).2.2.1
  admits := List.forall_mem_append.mpr ⟨invariant.admits, List.forall_mem_singleton.mpr bound⟩
  resultKeys := invariant.resultKeys
  built := invariant.built
  bound := invariant.bound

theorem stored (invariant : VerificationInvariant sha256 db) {result : VerificationResult}
    (built : VerificationResult.contract.Built sha256 result) (fresh : result.row.Fresh db)
    (bound : result.row.Bound db) : VerificationInvariant sha256
      (db.setVerificationResults (db.verificationResults ++ [result.row])) where
  tables := invariant.tables.beside rfl rfl (List.Subset.refl _)
  outboxKeys := invariant.outboxKeys
  inboxKeys := invariant.inboxKeys
  admits := invariant.admits
  resultKeys := invariant.resultKeys.append fun other member => (fresh other member).1
  built := List.forall_mem_append.mpr
    ⟨invariant.built, List.forall_mem_singleton.mpr ⟨result, built, rfl⟩⟩
  bound := List.forall_mem_append.mpr ⟨invariant.bound, List.forall_mem_singleton.mpr bound⟩

theorem step (invariant : VerificationInvariant sha256 db)
    (step : VerificationStep sha256 db next) : VerificationInvariant sha256 next := by
  cases step with
  | elsewhere other =>
      exact ⟨invariant.tables.beside rfl rfl (List.Subset.refl _), invariant.outboxKeys,
        invariant.inboxKeys, invariant.admits, invariant.resultKeys, invariant.built,
        invariant.bound⟩
  | leases middle next first second => exact (invariant.leases first).leases second
  | enqueued row fresh => exact invariant.enqueued fresh
  | admitted row fresh bound => exact invariant.admitted fresh bound
  | stored result built fresh bound => exact invariant.stored built fresh bound

theorem run (invariant : VerificationInvariant sha256 db) (calls : List (VerificationCall sha256)) :
    VerificationInvariant sha256 (Transaction.run VerificationCall.next db calls) :=
  Transaction.run_invariant (fun _ call held => held.step (call.step _)) invariant calls

end VerificationInvariant

theorem VerificationStep.results {sha256 : String → String} {db next : Database}
    (step : VerificationStep sha256 db next) :
    db.verificationResults <+: next.verificationResults := by
  cases step with
  | elsewhere other => exact List.prefix_rfl
  | leases middle next first second => rw [second.beside.2.2, first.beside.2.2]
  | enqueued row fresh => exact List.prefix_rfl
  | admitted row fresh bound => exact List.prefix_rfl
  | stored result built fresh bound => exact List.prefix_append _ _

namespace VerificationInvariant

variable {sha256 : String → String} {db : Database}

theorem one_state (invariant : VerificationInvariant sha256 db)
    {left right : ExecutionEpochStateRow} (leftStored : left ∈ db.executionEpochState)
    (rightStored : right ∈ db.executionEpochState) (same : left.executionId = right.executionId) :
    left = right := by
  obtain ⟨leftInbox, leftMember, leftAdmission, leftExecution⟩ :=
    invariant.tables.admitted left leftStored
  obtain ⟨rightInbox, rightMember, rightAdmission, rightExecution⟩ :=
    invariant.tables.admitted right rightStored
  obtain ⟨leftEntry, leftEntryStored, leftOutbox, -, leftEntryExecution, -⟩ :=
    invariant.admits leftInbox leftMember
  obtain ⟨rightEntry, rightEntryStored, rightOutbox, -, rightEntryExecution, -⟩ :=
    invariant.admits rightInbox rightMember
  have oneEntry : leftEntry = rightEntry :=
    invariant.outboxKeys.unique leftEntryStored rightEntryStored (by
      rw [leftEntryExecution, rightEntryExecution, leftExecution, rightExecution, same])
  have oneAdmission : leftInbox = rightInbox :=
    invariant.inboxKeys.unique leftMember rightMember (by
      rw [← leftOutbox, ← rightOutbox, oneEntry])
  refine invariant.tables.stateKeys.unique leftStored rightStored ?_
  rw [← leftAdmission, ← rightAdmission, oneAdmission]

end VerificationInvariant

/-- The stored results, and what storing a result does to them. -/
structure VerificationSafety (sha256 : String → String) (db : Database) : Prop where
  single : Table.Keyed (·.executionId) db.verificationResults
  /-- The execution of a result is completed, and the result names its completion and target. -/
  completed : ∀ row ∈ db.verificationResults, row.Bound db
  /-- There is no other outbox row or epoch state that it could name. -/
  bound : ∀ row ∈ db.verificationResults, ∀ outbox ∈ db.dispatchOutbox,
    outbox.executionId = row.executionId → ∀ state ∈ db.executionEpochState,
      state.executionId = row.executionId → row.Verifies outbox state
  /-- An equal result is returned, any other is refused, and nothing is written. -/
  again : ∀ row ∈ db.verificationResults, ∃ result, row = result.row ∧
    ∀ other : VerificationResult, other.executionId = row.executionId →
      Transaction.commit (DurableVerificationResultStore.store sha256 other) db =
        (if other = result then .ok result else .error DurableVerificationResultStore.conflict, db)
  /-- No result is stored for an execution that is not completed. -/
  incomplete : ∀ result : VerificationResult, (∀ state ∈ db.executionEpochState,
    state.executionId = result.executionId → state.status ≠ .completed) →
      ∃ error, Transaction.commit (DurableVerificationResultStore.store sha256 result) db =
        (.error error, db)

theorem VerificationInvariant.safety {sha256 : String → String} {db : Database}
    (invariant : VerificationInvariant sha256 db) : VerificationSafety sha256 db where
  single := invariant.resultKeys
  completed := invariant.bound
  bound row member outbox outboxStored sameOutbox state stateStored sameState := by
    obtain ⟨entry, entryStored, other, otherStored, verifies⟩ := invariant.bound row member
    obtain rfl : entry = outbox := invariant.outboxKeys.unique entryStored outboxStored
      (verifies.1.trans sameOutbox.symm)
    obtain rfl : other = state :=
      invariant.one_state otherStored stateStored (verifies.2.2.1.trans sameState.symm)
    exact verifies
  again row member := by
    obtain ⟨result, built, rfl⟩ := invariant.built row member
    refine ⟨result, rfl, fun other same => ?_⟩
    refine DurableVerificationResultStore.store_again built ?_
    rw [same]
    exact invariant.resultKeys.lookup_of_mem member
  incomplete result open' := by
    cases returned : DurableVerificationResultStore.store sha256 result db with
    | error error => exact ⟨error, Transaction.commit_of_error returned⟩
    | ok outcome =>
        exfalso
        unfold DurableVerificationResultStore.store at returned
        split at returned
        · next row found =>
          obtain ⟨member, same⟩ := Table.mem_of_lookup found
          obtain ⟨_, -, state, stored, -, -, execution, -, completed, -⟩ :=
            invariant.bound row member
          exact open' state stored (execution.trans same) completed
        · simp only [bind_eq_ok, catching_eq_ok] at returned
          obtain ⟨_, inserted, -⟩ := returned
          obtain ⟨-, -, _, -, state, stored, -, -, execution, -, completed, -⟩ :=
            Database.insertVerificationResult_eq_ok inserted
          exact open' state stored execution completed

/-- In every reachable database the stored results are single, bound and final, and they stay. -/
theorem verificationResults_final (sha256 : String → String) (store : Database)
    (calls : List (VerificationCall sha256)) :
    let db := Transaction.run VerificationCall.next (VerificationCall.start store) calls
    VerificationSafety sha256 db ∧ ∀ later : List (VerificationCall sha256),
      db.verificationResults <+:
          (Transaction.run VerificationCall.next db later).verificationResults ∧
        VerificationSafety sha256 (Transaction.run VerificationCall.next db later) := by
  intro db
  have invariant : VerificationInvariant sha256 db := (VerificationInvariant.start store).run calls
  refine ⟨invariant.safety, fun later => ⟨?_, (invariant.run later).safety⟩⟩
  exact Transaction.run_relation
    (fun before after => before.verificationResults <+: after.verificationResults)
    (fun _ call held => held.step (call.step _)) (fun _ => List.prefix_rfl) List.IsPrefix.trans
    (fun _ call _ => (call.step _).results) invariant later

end VoodooOne
