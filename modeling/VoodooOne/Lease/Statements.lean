import Mathlib.Logic.Relation
import VoodooOne.Lease.Safety

/-!
# Statements on the lease tables

Whatever statements are sent to the lease tables, directly or by the service, the keys and triggers
let only some through.  Every epoch up to the current one then has its lease, an epoch state moves
on only after the recorded end of its lease, and a completion lies inside the current lease.
-/

namespace VoodooOne

open DurableExecutionLeaseService

/-- A statement on the lease tables, without a conflict clause. -/
inductive LeaseStatement where
  | insertLease (row : ExecutionLeaseRow)
  | updateLeases (condition : ExecutionLeaseRow → Bool)
      (change : ExecutionLeaseRow → ExecutionLeaseRow)
  | deleteLeases (condition : ExecutionLeaseRow → Bool)
  | insertState (row : ExecutionEpochStateRow)
  | updateState (condition : ExecutionEpochStateRow → Bool)
      (change : ExecutionEpochStateRow → ExecutionEpochStateRow)
  | deleteStates (condition : ExecutionEpochStateRow → Bool)

/-- Execute a statement.  Leases are neither changed nor deleted, and states are not deleted. -/
def Database.execute (db : Database) : LeaseStatement → Except Raised Database
  | .insertLease row => db.insertLease row
  | .updateLeases condition _ => do
      raiseIf (∃ row ∈ db.executionLeases, condition row) integrityError
      return db
  | .deleteLeases condition => do
      raiseIf (∃ row ∈ db.executionLeases, condition row) integrityError
      return db
  | .insertState row => db.insertEpochState row
  | .updateState condition change => do
      let (_, next) ← db.updateEpochState condition change
      return next
  | .deleteStates condition => do
      raiseIf (∃ row ∈ db.executionEpochState, condition row) integrityError
      return db

/-- What a statement that is let through does. -/
inductive StatementEffect (db : Database) : Database → Prop where
  | unchanged : StatementEffect db db
  | leased (row : ExecutionLeaseRow) (fresh : row.Fresh db) (bound : row.Bound db) :
      StatementEffect db (db.setExecutionLeases (db.executionLeases ++ [row]))
  | begun (row : ExecutionEpochStateRow) (checks : row.Checks)
      (fresh : row.Fresh db.executionEpochState) (guard : row.InsertGuard db) :
      StatementEffect db (db.setExecutionEpochState (db.executionEpochState ++ [row]))
  | moved (old new : ExecutionEpochStateRow) (stored : old ∈ db.executionEpochState)
      (checks : new.Checks) (guard : ExecutionEpochStateRow.UpdateGuard old new db) :
      StatementEffect db
        (db.setExecutionEpochState (Table.replace (·.admissionId) db.executionEpochState new))

namespace Database

variable {db next : Database}

theorem insertLease_effect {row : ExecutionLeaseRow} (inserted : db.insertLease row = .ok next) :
    StatementEffect db next := by
  simp only [insertLease, bind_eq_ok, raiseIf_eq_ok, not_not, pure_eq_ok] at inserted
  obtain ⟨_, -, _, fresh, _, bound, _, -, rfl⟩ := inserted
  exact .leased row fresh bound

theorem insertEpochState_effect {row : ExecutionEpochStateRow}
    (inserted : db.insertEpochState row = .ok next) : StatementEffect db next := by
  simp only [insertEpochState, bind_eq_ok, raiseIf_eq_ok, not_not, pure_eq_ok] at inserted
  obtain ⟨_, checks, _, fresh, _, guard, _, -, rfl⟩ := inserted
  exact .begun row checks fresh guard

theorem updateEpochState_effect {condition : ExecutionEpochStateRow → Bool}
    {change : ExecutionEpochStateRow → ExecutionEpochStateRow}
    {updated : Option ExecutionEpochStateRow}
    (executed : db.updateEpochState condition change = .ok (updated, next)) :
    StatementEffect db next := by
  unfold updateEpochState at executed
  split at executed
  · obtain ⟨-, rfl⟩ := Prod.mk.inj (Except.ok.inj executed)
    exact .unchanged
  · next old found =>
    simp only [bind_eq_ok, raiseIf_eq_ok, not_not, pure_eq_ok, Prod.mk.injEq] at executed
    obtain ⟨_, checks, _, -, _, guard, -, rfl⟩ := executed
    exact .moved old _ (List.mem_of_find?_eq_some found) checks guard

theorem execute_effect (statement : LeaseStatement) (executed : db.execute statement = .ok next) :
    StatementEffect db next := by
  cases statement with
  | insertLease row => exact insertLease_effect executed
  | insertState row => exact insertEpochState_effect executed
  | updateState condition change =>
      simp only [execute, bind_eq_ok, pure_eq_ok] at executed
      obtain ⟨⟨updated, next⟩, found, rfl⟩ := executed
      exact updateEpochState_effect found
  | updateLeases condition change | deleteLeases condition | deleteStates condition =>
      simp only [execute, bind_eq_ok, pure_eq_ok] at executed
      obtain ⟨_, -, rfl⟩ := executed
      exact .unchanged

end Database

def ExecutionEpochStateRow.Admitted (state : ExecutionEpochStateRow) (db : Database) : Prop :=
  ∃ inbox ∈ db.dispatchInbox, inbox.admissionId = state.admissionId ∧
    inbox.executionId = state.executionId

/-- What the keys and triggers establish, statement by statement. -/
structure EpochTables (db : Database) : Prop where
  stateKeys : Table.Keyed (·.admissionId) db.executionEpochState
  leaseKeys : Table.Keyed (·.leaseId) db.executionLeases
  digestKeys : Table.Keyed (·.leaseDigest) db.executionLeases
  epochKeys : Table.Keyed (fun lease => (lease.admissionId, lease.executionEpoch))
    db.executionLeases
  /-- Every lease carries the columns of its admission. -/
  bound : ∀ lease ∈ db.executionLeases, lease.Bound db
  admitted : ∀ state ∈ db.executionEpochState, state.Admitted db
  checked : ∀ state ∈ db.executionEpochState, state.Checks
  /-- A state repeats the stored lease of its epoch. -/
  repeats : ∀ state ∈ db.executionEpochState, state.RepeatsLease db
  /-- Every epoch up to the current one has its lease. -/
  reached : ∀ state ∈ db.executionEpochState, ∀ epoch, 1 ≤ epoch → epoch ≤ state.currentEpoch →
    ∃ lease ∈ db.executionLeases, lease.admissionId = state.admissionId ∧
      lease.executionEpoch = epoch
  /-- A completion lies inside the current lease. -/
  inside : ∀ state ∈ db.executionEpochState, ∀ completedAt ∈ state.completedAt,
    state.currentLeaseAcquiredAt ≤ completedAt ∧ completedAt < state.currentLeaseExpiresAt

namespace EpochTables

variable {db next : Database}

theorem start (store : Database) : EpochTables (LeaseWorld.start store).db where
  stateKeys := Table.keyed_nil
  leaseKeys := Table.keyed_nil
  digestKeys := Table.keyed_nil
  epochKeys := Table.keyed_nil
  bound := List.forall_mem_nil _
  admitted := List.forall_mem_nil _
  checked := List.forall_mem_nil _
  repeats := List.forall_mem_nil _
  reached := List.forall_mem_nil _
  inside := List.forall_mem_nil _

theorem leased (tables : EpochTables db) {row : ExecutionLeaseRow} (fresh : row.Fresh db)
    (bound : row.Bound db) :
    EpochTables (db.setExecutionLeases (db.executionLeases ++ [row])) where
  stateKeys := tables.stateKeys
  leaseKeys := tables.leaseKeys.append fun other member => (fresh other member).1
  digestKeys := tables.digestKeys.append fun other member => (fresh other member).2.1
  epochKeys := tables.epochKeys.append fun other member same =>
    (fresh other member).2.2 (Prod.mk.inj same)
  bound lease member := by
    rcases List.mem_append.mp member with stored | last
    · exact tables.bound lease stored
    · obtain rfl := List.mem_singleton.mp last
      exact bound
  admitted := tables.admitted
  checked := tables.checked
  repeats state member := by
    obtain ⟨lease, stored, same⟩ := tables.repeats state member
    exact ⟨lease, List.mem_append_left _ stored, same⟩
  reached state member epoch positive early := by
    obtain ⟨lease, stored, same⟩ := tables.reached state member epoch positive early
    exact ⟨lease, List.mem_append_left _ stored, same⟩
  inside := tables.inside

theorem begun (tables : EpochTables db) {row : ExecutionEpochStateRow} (checks : row.Checks)
    (fresh : row.Fresh db.executionEpochState) (guard : row.InsertGuard db) :
    EpochTables (db.setExecutionEpochState (db.executionEpochState ++ [row])) := by
  obtain ⟨first, active, ⟨inbox, admitted, sameAdmission, -, sameExecution, -⟩, repeated⟩ := guard
  have unfinished : row.completedAt = none := by
    rcases checks.2.2.2.2.2.2.2.2.2.2.2.2.2 with open' | closed
    · exact open'.2.2.1
    · rw [active] at closed
      cases closed.1
  exact
    { stateKeys := tables.stateKeys.append fun other member => (fresh other member).1
      leaseKeys := tables.leaseKeys
      digestKeys := tables.digestKeys
      epochKeys := tables.epochKeys
      bound := tables.bound
      admitted := List.forall_mem_append.mpr ⟨tables.admitted, List.forall_mem_singleton.mpr
        ⟨inbox, admitted, sameAdmission, sameExecution⟩⟩
      checked := List.forall_mem_append.mpr ⟨tables.checked, List.forall_mem_singleton.mpr checks⟩
      repeats := List.forall_mem_append.mpr
        ⟨tables.repeats, List.forall_mem_singleton.mpr repeated⟩
      reached := List.forall_mem_append.mpr ⟨tables.reached, List.forall_mem_singleton.mpr
        fun epoch positive early => by
          obtain ⟨lease, stored, -, -, same, epochSame, -⟩ := repeated
          exact ⟨lease, stored, same, by omega⟩⟩
      inside := List.forall_mem_append.mpr ⟨tables.inside, List.forall_mem_singleton.mpr
        fun completedAt recorded => by
          rw [unfinished] at recorded
          cases recorded⟩ }

/-- More admissions and other changes beside the lease tables. -/
theorem beside (tables : EpochTables db) (leases : next.executionLeases = db.executionLeases)
    (states : next.executionEpochState = db.executionEpochState)
    (inbox : db.dispatchInbox ⊆ next.dispatchInbox) : EpochTables next where
  stateKeys := states ▸ tables.stateKeys
  leaseKeys := leases ▸ tables.leaseKeys
  digestKeys := leases ▸ tables.digestKeys
  epochKeys := leases ▸ tables.epochKeys
  bound lease member := by
    obtain ⟨row, stored, same⟩ := tables.bound lease (leases ▸ member)
    exact ⟨row, inbox stored, same⟩
  admitted state member := by
    obtain ⟨row, stored, same⟩ := tables.admitted state (states ▸ member)
    exact ⟨row, inbox stored, same⟩
  checked state member := tables.checked state (states ▸ member)
  repeats state member := by
    rw [ExecutionEpochStateRow.RepeatsLease, leases]
    exact tables.repeats state (states ▸ member)
  reached state member := by
    rw [leases]
    exact tables.reached state (states ▸ member)
  inside state member := tables.inside state (states ▸ member)

/-- A property of the other states and of the new one holds of all states after an update. -/
theorem forall_replace {property : ExecutionEpochStateRow → Prop} {new : ExecutionEpochStateRow}
    (others : ∀ state ∈ db.executionEpochState, property state) (changed : property new) :
    ∀ state ∈ Table.replace (·.admissionId) db.executionEpochState new, property state := by
  intro state member
  rcases Table.mem_replace.mp member with ⟨rfl, -⟩ | ⟨stored, -⟩
  · exact changed
  · exact others state stored

theorem moved (tables : EpochTables db) {old new : ExecutionEpochStateRow}
    (stored : old ∈ db.executionEpochState) (checks : new.Checks)
    (guard : ExecutionEpochStateRow.UpdateGuard old new db) :
    EpochTables
      (db.setExecutionEpochState (Table.replace (·.admissionId) db.executionEpochState new)) := by
  obtain ⟨-, sameAdmission, -, sameExecution, -, -, -, -, -, move⟩ := guard
  have repeated : new.RepeatsLease db := by
    rcases move with reacquires | ⟨-, sameEpoch, sameId, sameDigest, sameStart, sameStop, -⟩
    · exact reacquires.2.2.2.2.2.2.2.2.2
    · obtain ⟨lease, member, id, digest, admission, epoch, start, stop⟩ :=
        tables.repeats old stored
      exact ⟨lease, member, id.trans sameId.symm, digest.trans sameDigest.symm,
        admission.trans sameAdmission.symm, epoch.trans sameEpoch.symm, start.trans sameStart.symm,
        stop.trans sameStop.symm⟩
  exact
    { stateKeys := tables.stateKeys.replace
      leaseKeys := tables.leaseKeys
      digestKeys := tables.digestKeys
      epochKeys := tables.epochKeys
      bound := tables.bound
      admitted := by
        refine forall_replace tables.admitted ?_
        obtain ⟨inbox, member, admission, execution⟩ := tables.admitted old stored
        exact ⟨inbox, member, admission.trans sameAdmission.symm,
          execution.trans sameExecution.symm⟩
      checked := forall_replace tables.checked checks
      repeats := forall_replace tables.repeats repeated
      reached := by
        refine forall_replace tables.reached fun epoch positive early => ?_
        rw [sameAdmission]
        by_cases before : epoch ≤ old.currentEpoch
        · exact tables.reached old stored epoch positive before
        · obtain ⟨lease, member, -, -, admission, leaseEpoch, -⟩ := repeated
          refine ⟨lease, member, admission.trans sameAdmission, ?_⟩
          rcases move with ⟨-, next, -⟩ | ⟨-, same, -⟩ <;> omega
      inside := by
        refine forall_replace tables.inside fun completedAt recorded => ?_
        rcases move with ⟨-, -, -, -, -, -, unfinished, -⟩ |
          ⟨-, -, -, -, sameStart, sameStop, -, -, within, -⟩
        · rw [unfinished] at recorded
          cases recorded
        · rw [sameStart, sameStop]
          exact within completedAt recorded }

/-- Every statement that is let through keeps the invariant. -/
theorem step (tables : EpochTables db) (effect : StatementEffect db next) : EpochTables next := by
  cases effect with
  | unchanged => exact tables
  | leased row fresh bound => exact tables.leased fresh bound
  | begun row checks fresh guard => exact tables.begun checks fresh guard
  | moved old new stored checks guard => exact tables.moved stored checks guard

end EpochTables

/-- An active state moves on when the recorded end of its lease has passed, or it is completed. -/
def ExecutionEpochStateRow.Moves (old new : ExecutionEpochStateRow) : Prop :=
  old.status = .active ∧ new.admissionId = old.admissionId ∧
    new.executionId = old.executionId ∧ new.authorityRevision = old.authorityRevision ∧
    ((new.status = .active ∧ new.currentEpoch = old.currentEpoch + 1 ∧
        old.currentLeaseExpiresAt ≤ new.updatedAt) ∨ ExecutionEpochStateRow.Completes old new)

theorem ExecutionEpochStateRow.Moves.eq_of_completed {old new : ExecutionEpochStateRow}
    (moves : Relation.ReflTransGen ExecutionEpochStateRow.Moves old new)
    (completed : old.status = .completed) : new = old := by
  induction moves using Relation.ReflTransGen.head_induction_on with
  | refl => rfl
  | head first _ _ =>
      rw [first.1] at completed
      cases completed

/-- How statements change the lease tables. -/
structure TablesProgress (db next : Database) : Prop where
  /-- Leases are only added. -/
  leases : db.executionLeases <+: next.executionLeases
  /-- States stay or move on. -/
  states : ∀ admission old, stateOf db admission = some old → ∃ new,
    stateOf next admission = some new ∧ Relation.ReflTransGen ExecutionEpochStateRow.Moves old new

namespace TablesProgress

variable {db middle next : Database}

theorem refl (db : Database) : TablesProgress db db :=
  ⟨List.prefix_rfl, fun _ old found => ⟨old, found, .refl⟩⟩

theorem trans (early : TablesProgress db middle) (late : TablesProgress middle next) :
    TablesProgress db next := by
  refine ⟨early.leases.trans late.leases, fun admission old found => ?_⟩
  obtain ⟨between, foundBetween, first⟩ := early.states admission old found
  obtain ⟨new, foundNew, second⟩ := late.states admission between foundBetween
  exact ⟨new, foundNew, first.trans second⟩

theorem step (tables : EpochTables db) (effect : StatementEffect db next) :
    TablesProgress db next := by
  cases effect with
  | unchanged => exact .refl db
  | leased row fresh bound =>
      exact ⟨List.prefix_append _ _, fun _ old found => ⟨old, found, .refl⟩⟩
  | begun row checks fresh guard =>
      refine ⟨List.prefix_rfl, fun admission old found => ⟨old, ?_, .refl⟩⟩
      rw [stateOf, Database.setExecutionEpochState_executionEpochState, Table.lookup_append]
      rw [stateOf] at found
      rw [found, Option.some_or]
  | moved old new stored checks guard =>
      refine ⟨List.prefix_rfl, fun admission state found => ?_⟩
      obtain ⟨active, sameAdmission, -, sameExecution, -, -, -, -, sameRevision, move⟩ := guard
      have foundOld : stateOf db new.admissionId = some old := by
        rw [sameAdmission]
        exact tables.stateKeys.lookup_of_mem stored
      rw [← withEpochState, stateOf_withEpochState foundOld]
      by_cases same : admission = new.admissionId
      · obtain rfl : old = state := by rwa [same, foundOld, Option.some.injEq] at found
        refine ⟨new, if_pos same, .single ⟨active, sameAdmission, sameExecution, sameRevision, ?_⟩⟩
        rcases move with ⟨newActive, nextEpoch, -, -, expired, -⟩ | completes
        · exact .inl ⟨newActive, nextEpoch, expired⟩
        · exact .inr completes
      · exact ⟨state, (if_neg same).trans found, .refl⟩

end TablesProgress

/-- One statement on its own; a statement that fails changes nothing. -/
def Database.statement (db : Database) (statement : LeaseStatement) : Database :=
  match db.execute statement with
  | .ok next => next
  | .error _ => db

theorem Database.statement_effect (db : Database) (statement : LeaseStatement) :
    StatementEffect db (db.statement statement) := by
  unfold Database.statement
  split
  · next next executed => exact Database.execute_effect statement executed
  · exact .unchanged

theorem EpochTables.statements {db : Database} (tables : EpochTables db)
    (statements : List LeaseStatement) :
    EpochTables (Transaction.run Database.statement db statements) ∧
      TablesProgress db (Transaction.run Database.statement db statements) :=
  ⟨Transaction.run_invariant (fun db statement held => held.step (db.statement_effect statement))
      tables statements,
    Transaction.run_relation TablesProgress
      (fun db statement held => held.step (db.statement_effect statement)) .refl .trans
      (fun db statement held => .step held (db.statement_effect statement)) tables statements⟩

end VoodooOne
