import VoodooOne.Lease.Acceptance

/-!
# Triggers of the lease tables

Every row that the service has decided to write passes the triggers.  The triggers alone let less
through than anything, and more than the service writes: they number the epoch states and hold them
until the recorded end of their lease, but they neither number the leases nor compare their starts.
-/

namespace VoodooOne

open Calendar DurableExecutionLeaseService

namespace AcquirePlan

variable {plan : AcquirePlan} {db : Database}

/-- `trg_execution_leases_v1_admission_binding_insert` lets the new lease through. -/
theorem Passed.leaseRow_bound (passed : plan.Passed db) : plan.leaseRow.Bound db := by
  have bound := passed.bound
  rw [ExecutionLease.assertBoundTo, raiseIf_eq_ok, not_not] at bound
  simp only [ExecutionLease.bound, List.cons.injEq] at bound
  obtain ⟨dispatch, admission, digest, execution, workspace, environment, capsule, runner, -⟩ :=
    bound
  exact ⟨plan.admission.row, passed.inbox, admission.symm, dispatch.symm, digest.symm,
    execution.symm, workspace.symm, environment.symm, capsule.symm, runner.symm⟩

theorem Passed.leaseRow_checks (passed : plan.Passed db) : plan.leaseRow.Checks := by
  obtain ⟨⟨leaseId, dispatchId, admissionDigest, capsule, -, leaseDigest⟩,
    ⟨executionId, runnerClass, acquiredAt, expiresAt, revision⟩, epoch⟩ := passed.columns
  have environment : EnvironmentColumn plan.lease.environment := by
    have bound := passed.bound
    rw [ExecutionLease.assertBoundTo, raiseIf_eq_ok, not_not] at bound
    simp only [ExecutionLease.bound, List.cons.injEq] at bound
    rw [bound.2.2.2.2.2.1]
    exact passed.environment
  exact ⟨leaseId, dispatchId, admissionDigest, executionId, environment, capsule, runnerClass,
    epoch, acquiredAt, expiresAt, passed.columns.digests.2.2.2.2.1, jsonColumn_object _ _, revision,
    leaseDigest, jsonColumn_object _ _⟩

end AcquirePlan

theorem LeaseInvariant.epoch_le {db : Database} (invariant : LeaseInvariant db)
    {lease : ExecutionLeaseRow} (stored : lease ∈ db.executionLeases) :
    lease.executionEpoch ≤ currentEpoch db lease.admissionId := by
  obtain ⟨chain, represents⟩ := invariant.represented lease.admissionId
  obtain ⟨index, bound, epoch, -⟩ := represents.interval_of_mem
    (List.mem_filter.mpr ⟨stored, decide_eq_true rfl⟩)
  rw [represents.currentEpoch_eq, epoch]
  omega

/-- Another lease, of another admission or epoch, has the identifier or the digest of this one. -/
def ExecutionLeaseRow.Collides (row : ExecutionLeaseRow) (db : Database) : Prop :=
  ∃ other ∈ db.executionLeases,
    (other.leaseId = row.leaseId ∨ other.leaseDigest = row.leaseDigest) ∧
      ¬(other.admissionId = row.admissionId ∧ other.executionEpoch = row.executionEpoch)

namespace AcquirePlan

variable {plan : AcquirePlan} {db : Database}

theorem Passed.admission_eq (passed : plan.Passed db) :
    plan.lease.admissionId = plan.admission.admissionId :=
  assertBoundTo_eq_ok passed.bound

theorem Passed.epoch_eq (passed : plan.Passed db) :
    plan.lease.executionEpoch = currentEpoch db plan.lease.admissionId + 1 := by
  have follows := passed.follows
  rw [passed.admission_eq, currentEpoch]
  cases previous : plan.previous with
  | none =>
      rw [previous] at follows
      rw [follows.1, follows.2]
      rfl
  | some lease =>
      rw [previous] at follows
      obtain ⟨state, found, -, epoch, -⟩ := follows
      rw [found, epoch]
      rfl

theorem Passed.fresh_or_collides (passed : plan.Passed db) (invariant : LeaseInvariant db) :
    plan.leaseRow.Fresh db ∨ plan.leaseRow.Collides db := by
  by_cases collides : plan.leaseRow.Collides db
  · exact .inr collides
  · refine .inl fun other stored => ?_
    have apart : ¬(other.admissionId = plan.leaseRow.admissionId ∧
        other.executionEpoch = plan.leaseRow.executionEpoch) := by
      rintro ⟨admission, epoch⟩
      have late := invariant.epoch_le stored
      rw [admission, epoch] at late
      have next := passed.epoch_eq
      simp only [leaseRow, ExecutionLease.row] at late
      omega
    exact ⟨fun same => collides ⟨other, stored, .inl same, apart⟩,
      fun same => collides ⟨other, stored, .inr same, apart⟩, apart⟩

/-- The `INSERT` of the new lease fails only without its workspace or on a collision. -/
theorem Passed.insertLease_cases (passed : plan.Passed db) (invariant : LeaseInvariant db) :
    (∃ middle, db.insertLease plan.leaseRow = .ok middle) ∨
      (db.insertLease plan.leaseRow = .error integrityError ∧
        (¬db.HasWorkspace plan.leaseRow.workspaceId ∨ plan.leaseRow.Collides db)) := by
  have checks := passed.leaseRow_checks
  have bound := passed.leaseRow_bound
  unfold Database.insertLease
  rw [raiseIf, if_neg (not_not.mpr checks), ok_bind]
  by_cases fresh : plan.leaseRow.Fresh db
  · rw [raiseIf, if_neg (not_not.mpr fresh), ok_bind, raiseIf, if_neg (not_not.mpr bound), ok_bind]
    by_cases workspace : db.HasWorkspace plan.leaseRow.workspaceId
    · rw [raiseIf, if_neg (not_not.mpr workspace), ok_bind]
      exact .inl ⟨_, rfl⟩
    · rw [raiseIf, if_pos workspace]
      exact .inr ⟨rfl, .inl workspace⟩
  · rw [raiseIf, if_pos fresh]
    exact .inr ⟨rfl, .inr ((passed.fresh_or_collides invariant).resolve_left fresh)⟩

end AcquirePlan

/-- An `INSERT` of an epoch state that meets the constraints. -/
theorem Database.insertEpochState_ok {db : Database} {row : ExecutionEpochStateRow}
    (checks : row.Checks) (fresh : row.Fresh db.executionEpochState) (guard : row.InsertGuard db)
    (workspace : db.HasWorkspace row.workspaceId) :
    db.insertEpochState row =
      .ok (db.setExecutionEpochState (db.executionEpochState ++ [row])) := by
  simp only [insertEpochState, bind_eq_ok, raiseIf_eq_ok, not_not, pure_eq_ok]
  exact ⟨(), checks, (), fresh, (), guard, (), workspace, trivial⟩

/-- An `UPDATE` of an epoch state that meets the constraints. -/
theorem Database.updateEpochState_ok {db : Database} {old : ExecutionEpochStateRow}
    {condition : ExecutionEpochStateRow → Bool}
    {change : ExecutionEpochStateRow → ExecutionEpochStateRow}
    (found : db.executionEpochState.find? condition = some old) (checks : (change old).Checks)
    (fresh : (change old).Fresh
      (db.executionEpochState.filter (·.admissionId ≠ old.admissionId)))
    (guard : ExecutionEpochStateRow.UpdateGuard old (change old) db) :
    db.updateEpochState condition change = .ok (some (change old), db.setExecutionEpochState
      (Table.replace (·.admissionId) db.executionEpochState (change old))) := by
  rw [updateEpochState, found]
  simp only [bind_eq_ok, raiseIf_eq_ok, not_not, pure_eq_ok]
  exact ⟨(), checks, (), fresh, (), guard, trivial⟩

theorem Database.execute_updateState {db next : Database}
    {condition : ExecutionEpochStateRow → Bool}
    {change : ExecutionEpochStateRow → ExecutionEpochStateRow}
    {updated : Option ExecutionEpochStateRow}
    (executed : db.updateEpochState condition change = .ok (updated, next)) :
    db.execute (.updateState condition change) = .ok next := by
  rw [execute, executed]
  rfl

/-- The row that the `WHERE` clause of the service finds. -/
theorem EpochTables.find_activeUnder {db : Database} (tables : EpochTables db) {admission : String}
    {lease : ExecutionLease} {state : ExecutionEpochStateRow}
    (current : stateOf db admission = some state) (active : activeUnder admission lease state) :
    db.executionEpochState.find? (activeUnder admission lease) = some state := by
  obtain ⟨stored, same⟩ := Table.mem_of_lookup current
  cases found : db.executionEpochState.find? (activeUnder admission lease) with
  | none => exact absurd active (List.find?_eq_none.mp found state stored)
  | some other =>
      have met := List.find?_some found
      simp only [activeUnder, decide_eq_true_eq] at met
      rw [tables.stateKeys.unique (List.mem_of_find?_eq_some found) stored (met.1.trans same.symm)]

/-- A state that repeats a stored lease does not show a new one. -/
theorem EpochTables.other_lease {db : Database} (tables : EpochTables db)
    {row : ExecutionLeaseRow} (fresh : row.Fresh db) {state : ExecutionEpochStateRow}
    (stored : state ∈ db.executionEpochState) :
    state.currentLeaseId ≠ row.leaseId ∧ state.currentLeaseDigest ≠ row.leaseDigest := by
  obtain ⟨lease, member, identity, digest, -⟩ := tables.repeats state stored
  exact ⟨identity ▸ (fresh lease member).1, digest ▸ (fresh lease member).2.1⟩

theorem EpochTables.uncompleted {db : Database} (tables : EpochTables db)
    {state : ExecutionEpochStateRow} (stored : state ∈ db.executionEpochState)
    (active : state.status = .active) :
    state.completionDigest = none ∧ state.completedAt = none ∧
      state.completionClockWitnessDigest = none ∧ state.completionClockWitness = none := by
  obtain ⟨-, -, -, -, -, -, -, -, -, -, -, -, -, open' | closed⟩ := tables.checked state stored
  · exact open'.2
  · rw [active] at closed
    cases closed.1

namespace AcquirePlan

variable {plan : AcquirePlan} {db : Database}

/-- What `acquire` reports. -/
def outcome (plan : AcquirePlan) : LeaseOutcome :=
  if plan.previous.isNone then .leaseAcquired else .leaseReacquired

theorem repeats_leaseRow {state : ExecutionEpochStateRow}
    (identity : plan.lease.leaseId = state.currentLeaseId)
    (digest : plan.lease.leaseDigest = state.currentLeaseDigest)
    (admission : plan.lease.admissionId = state.admissionId)
    (epoch : plan.lease.executionEpoch = state.currentEpoch)
    (acquired : plan.lease.acquiredAt = state.currentLeaseAcquiredAt)
    (expires : plan.lease.expiresAt = state.currentLeaseExpiresAt) :
    state.RepeatsLease (db.setExecutionLeases (db.executionLeases ++ [plan.leaseRow])) :=
  ⟨plan.leaseRow, List.mem_append_right _ (List.mem_singleton_self _), identity, digest, admission,
    epoch, acquired, expires⟩

/-- The `INSERT` of the first state is let through. -/
theorem Passed.insertEpochState_ok (passed : plan.Passed db) (tables : EpochTables db)
    (service : DurableExecutionLeaseService) (first : plan.previous = none)
    (fresh : plan.leaseRow.Fresh db) (workspace : db.HasWorkspace plan.leaseRow.workspaceId) :
    ∃ next, (db.setExecutionLeases (db.executionLeases ++ [plan.leaseRow])).insertEpochState
      (service.initialState plan.admission plan.lease plan.clockWitness) = .ok next := by
  have follows := passed.follows
  rw [first] at follows
  obtain ⟨unleased, epoch⟩ := follows
  have bound := passed.bound
  rw [ExecutionLease.assertBoundTo, raiseIf_eq_ok, not_not] at bound
  simp only [ExecutionLease.bound, List.cons.injEq] at bound
  obtain ⟨-, admission, admissionDigest, executionId, workspaceId, -, capsule, runner, -⟩ := bound
  obtain ⟨⟨-, -, isAdmission, isCapsule, -, isDigest⟩,
    ⟨execution, runnerClass, acquired, expires, -⟩, positive⟩ := passed.columns
  rw [admissionDigest] at isAdmission
  rw [capsule] at isCapsule
  rw [executionId] at execution
  rw [runner] at runnerClass
  refine ⟨_, Database.insertEpochState_ok ?_ ?_ ?_ ?_⟩
  · exact ⟨isAdmission, execution, passed.environment, isCapsule, runnerClass, positive, isDigest,
      acquired, expires, fun _ known => absurd known (Option.not_mem_none _),
      fun _ known => absurd known (Option.not_mem_none _),
      nonEmpty_of_validText service.revisions.2, passed.witness.2, .inl ⟨rfl, rfl, rfl, rfl, rfl⟩⟩
  · intro other stored
    exact ⟨Table.lookup_eq_none.mp unleased other stored, tables.other_lease fresh stored⟩
  · exact ⟨epoch, rfl, ⟨plan.admission.row, passed.inbox, rfl, rfl, rfl, rfl, rfl, rfl, rfl⟩,
      repeats_leaseRow rfl rfl admission rfl rfl rfl⟩
  · change db.HasWorkspace plan.admission.workspaceId
    rw [← workspaceId]
    exact workspace

/-- The `UPDATE` of the state under the next lease is let through. -/
theorem Passed.updateEpochState_ok (passed : plan.Passed db) (tables : EpochTables db)
    {previous : ExecutionLease} (follows : plan.previous = some previous)
    (fresh : plan.leaseRow.Fresh db) :
    ∃ updated next, (db.setExecutionLeases (db.executionLeases ++ [plan.leaseRow])).updateEpochState
      (activeUnder plan.admission.admissionId previous)
      (reacquired plan.lease plan.clockWitness) = .ok (some updated, next) := by
  have after := passed.follows
  rw [follows] at after
  obtain ⟨state, current, active, epoch, expired⟩ := after
  obtain ⟨stored, admission⟩ := Table.mem_of_lookup current
  have found := tables.find_activeUnder current active
  simp only [activeUnder, decide_eq_true_eq] at active
  obtain ⟨noDigest, noTime, noWitness, noJson⟩ := tables.uncompleted stored active.2.1
  obtain ⟨isAdmission, execution, environment, capsule, runner, -, -, -, -, -, -, revision, -⟩ :=
    tables.checked state stored
  obtain ⟨⟨-, -, -, -, -, isDigest⟩, ⟨-, -, acquired, expires, -⟩, positive⟩ := passed.columns
  obtain ⟨otherId, otherDigest⟩ := tables.other_lease fresh stored
  refine ⟨_, _, Database.updateEpochState_ok found ?_ ?_ ?_⟩
  · refine ⟨isAdmission, execution, environment, capsule, runner, positive, isDigest, acquired,
      expires, ?_, ?_, revision, passed.witness.2,
      .inl ⟨active.2.1, noDigest, noTime, noWitness, noJson⟩⟩
    · simp only [reacquired, noDigest, Option.mem_def, reduceCtorEq, false_implies, implies_true]
    · simp only [reacquired, noWitness, Option.mem_def, reduceCtorEq, false_implies, implies_true]
  · intro other member
    obtain ⟨otherStored, apart⟩ := List.mem_filter.mp member
    exact ⟨of_decide_eq_true apart, tables.other_lease fresh otherStored⟩
  · exact ⟨active.2.1, rfl, rfl, rfl, rfl, rfl, rfl, rfl, rfl, .inl ⟨active.2.1, epoch,
      otherId.symm, otherDigest.symm, expired, noDigest, noTime, noWitness, noJson,
      repeats_leaseRow rfl rfl (passed.admission_eq.trans admission.symm) rfl rfl rfl⟩⟩

/-- Once the new lease is stored, the statement on the epoch state is let through. -/
theorem Passed.stateStatement_ok (passed : plan.Passed db) (tables : EpochTables db)
    (service : DurableExecutionLeaseService) {middle : Database}
    (inserted : db.insertLease plan.leaseRow = .ok middle) :
    ∃ next, middle.execute (plan.stateStatement service) = .ok next ∧
      plan.write service db = .ok (⟨plan.outcome, plan.lease⟩, next) := by
  have stored := inserted
  simp only [Database.insertLease, bind_eq_ok, raiseIf_eq_ok, not_not, pure_eq_ok] at stored
  obtain ⟨_, -, _, fresh, _, -, _, workspace, rfl⟩ := stored
  cases previous : plan.previous with
  | none =>
      obtain ⟨next, begun⟩ := passed.insertEpochState_ok tables service previous fresh workspace
      refine ⟨next, ?_, ?_⟩
      · rw [stateStatement, previous]
        exact begun
      · rw [write, inserted, previous]
        simp only [catching, ok_bind, begun, outcome, previous]
        rfl
  | some lease =>
      obtain ⟨updated, next, moved⟩ := passed.updateEpochState_ok tables previous fresh
      refine ⟨next, ?_, ?_⟩
      · rw [stateStatement, previous]
        exact Database.execute_updateState moved
      · rw [write, inserted, previous]
        simp only [catching, ok_bind, moved, orRaise, outcome, previous]
        rfl

end AcquirePlan

/-- The `UPDATE` of a completion is let through. -/
theorem CompletePlan.Passed.updateEpochState_ok {db : Database} {lease : ExecutionLease}
    {completion : String} {clockWitness : ClockWitness}
    (passed : (CompletePlan.record lease completion clockWitness).Passed db)
    (tables : EpochTables db) :
    ∃ updated next, db.updateEpochState (activeUnder lease.admissionId lease)
      (completedState completion clockWitness) = .ok (some updated, next) := by
  obtain ⟨state, current, active, isDigest, isWitness, time, start, stop⟩ := passed
  obtain ⟨stored, admission⟩ := Table.mem_of_lookup current
  have found := tables.find_activeUnder current active
  simp only [activeUnder, decide_eq_true_eq] at active
  obtain ⟨isAdmission, execution, environment, capsule, runner, positive, digest, acquired, expires,
    -, -, revision, -⟩ := tables.checked state stored
  refine ⟨_, _, Database.updateEpochState_ok found ?_ ?_ ?_⟩
  · refine ⟨isAdmission, execution, environment, capsule, runner, positive, digest, acquired,
      expires, ?_, ?_, revision, time, .inr ⟨rfl, Option.some_ne_none _, Option.some_ne_none _,
        Option.some_ne_none _, Option.some_ne_none _⟩⟩
    · rintro _ ⟨⟩
      exact isDigest
    · rintro _ ⟨⟩
      exact isWitness
  · intro other member
    obtain ⟨otherStored, apart⟩ := List.mem_filter.mp member
    obtain ⟨row, rowStored, rowId, rowDigest, rowAdmission, -⟩ := tables.repeats state stored
    obtain ⟨otherRow, otherRowStored, otherId, otherDigest, otherAdmission, -⟩ :=
      tables.repeats other otherStored
    have different : otherRow ≠ row := by
      rintro rfl
      exact of_decide_eq_true apart (otherAdmission.symm.trans rowAdmission)
    refine ⟨of_decide_eq_true apart, fun same => different ?_, fun same => different ?_⟩
    · exact tables.leaseKeys.unique otherRowStored rowStored
        (otherId.trans (same.trans rowId.symm))
    · exact tables.digestKeys.unique otherRowStored rowStored
        (otherDigest.trans (same.trans rowDigest.symm))
  · exact ⟨active.2.1, rfl, rfl, rfl, rfl, rfl, rfl, rfl, rfl, .inr ⟨rfl, rfl, rfl, rfl, rfl, rfl,
      Option.some_ne_none _, Option.some_ne_none _,
      fun completedAt same => by cases same; exact ⟨start, stop⟩, Option.some_ne_none _,
      Option.some_ne_none _⟩⟩

theorem AcquirePlan.write_effects {plan : AcquirePlan} {service : DurableExecutionLeaseService}
    {db next : Database} {result : DurableExecutionLeaseResult}
    (written : plan.write service db = .ok (result, next)) :
    ∃ middle, StatementEffect db middle ∧ StatementEffect middle next := by
  rw [write, bind_eq_ok] at written
  obtain ⟨middle, inserted, rest⟩ := written
  refine ⟨middle, Database.insertLease_effect (catching_eq_ok.mp inserted), ?_⟩
  cases previous : plan.previous with
  | none =>
      simp only [previous, bind_eq_ok, catching_eq_ok, pure_eq_ok, Prod.mk.injEq] at rest
      obtain ⟨_, begun, -, rfl⟩ := rest
      exact Database.insertEpochState_effect begun
  | some lease =>
      simp only [previous, bind_eq_ok, pure_eq_ok, Prod.mk.injEq] at rest
      obtain ⟨⟨updated, _⟩, moved, _, -, -, rfl⟩ := rest
      exact Database.updateEpochState_effect moved

theorem CompletePlan.write_effect {plan : CompletePlan} {db next : Database}
    {result : DurableExecutionCompletionResult} (written : plan.write db = .ok (result, next)) :
    StatementEffect db next := by
  cases plan with
  | duplicate lease completion =>
      obtain ⟨-, rfl⟩ := Prod.mk.inj (Except.ok.inj written)
      exact .unchanged
  | record lease completion clockWitness =>
      simp only [write, bind_eq_ok, pure_eq_ok, Prod.mk.injEq] at written
      obtain ⟨⟨updated, _⟩, moved, _, -, -, rfl⟩ := written
      exact Database.updateEpochState_effect moved

theorem LeaseWorld.step_effects {sha256 : String → String} (world : LeaseWorld)
    (call : LeaseCall) :
    ∃ middle, StatementEffect world.db middle ∧
      StatementEffect middle (world.step sha256 call).db := by
  have nothing : ∃ middle, StatementEffect world.db middle ∧ StatementEffect middle world.db :=
    ⟨world.db, .unchanged, .unchanged⟩
  cases call with
  | acquire service admissionId reading =>
      refine Transaction.commit_cases (motive := fun next => ∃ middle,
        StatementEffect world.db middle ∧ StatementEffect middle next) _ world.db nothing
        fun result next returned => ?_
      rw [acquire_eq, bind_eq_ok] at returned
      obtain ⟨plan, -, written⟩ := returned
      exact plan.write_effects written
  | complete service leaseId completionDigest reading =>
      refine Transaction.commit_cases (motive := fun next => ∃ middle,
        StatementEffect world.db middle ∧ StatementEffect middle next) _ world.db nothing
        fun result next returned => ?_
      rw [complete_eq, bind_eq_ok] at returned
      obtain ⟨plan, -, written⟩ := returned
      exact ⟨next, plan.write_effect written, .unchanged⟩

theorem EpochTables.call {sha256 : String → String} {world : LeaseWorld}
    (tables : EpochTables world.db) (call : LeaseCall) :
    EpochTables (world.step sha256 call).db := by
  obtain ⟨middle, first, second⟩ : ∃ middle, StatementEffect world.db middle ∧
      StatementEffect middle (world.step sha256 call).db := world.step_effects call
  exact (tables.step first).step second

theorem EpochTables.calls (sha256 : String → String) {world : LeaseWorld}
    (tables : EpochTables world.db) (calls : List LeaseCall) :
    EpochTables (Transaction.run (LeaseWorld.step sha256) world calls).db :=
  Transaction.run_invariant
    (fun (world : LeaseWorld) call (held : EpochTables world.db) => held.call call) tables calls

/-- What becomes of an acquisition that has passed its checks. -/
structure AcquireAccepted (service : DurableExecutionLeaseService) (db : Database)
    (reply : Except Raised (DurableExecutionLeaseResult × Database)) (plan : AcquirePlan) :
      Prop where
  issued : reply = plan.write service db
  bound : plan.leaseRow.Bound db
  /-- The `INSERT` of the lease fails only without its workspace or on a collision. -/
  leased : (∃ middle, db.insertLease plan.leaseRow = .ok middle) ∨
    (reply = .error (denied "LEASE_PERSISTENCE_CONFLICT") ∧
      (¬db.HasWorkspace plan.leaseRow.workspaceId ∨ plan.leaseRow.Collides db))
  /-- The statement on the epoch state does not fail. -/
  moved : ∀ middle, db.insertLease plan.leaseRow = .ok middle →
    ∃ next, middle.execute (plan.stateStatement service) = .ok next ∧
      reply = .ok (⟨plan.outcome, plan.lease⟩, next)

theorem AcquirePlan.Passed.accepted {plan : AcquirePlan} {db : Database}
    (passed : plan.Passed db) (tables : EpochTables db) (invariant : LeaseInvariant db)
    (service : DurableExecutionLeaseService) :
    AcquireAccepted service db (plan.write service db) plan where
  issued := rfl
  bound := passed.leaseRow_bound
  leased := by
    refine (passed.insertLease_cases invariant).imp_right fun ⟨failed, reason⟩ => ⟨?_, reason⟩
    rw [write, failed]
    rfl
  moved _ inserted := passed.stateStatement_ok tables service inserted

/-- A completion that has passed its checks is recorded. -/
theorem CompletePlan.Passed.accepted {plan : CompletePlan} {db : Database}
    (passed : plan.Passed db) (tables : EpochTables db) :
      ∃ outcome, plan.write db = .ok outcome := by
  cases plan with
  | duplicate lease completion => exact ⟨_, rfl⟩
  | record lease completion clockWitness =>
      obtain ⟨updated, next, moved⟩ := passed.updateEpochState_ok tables
      refine ⟨(⟨.completed, lease, completion⟩, next), ?_⟩
      rw [write, moved]
      rfl

/-- In every reachable database the triggers accept what the service has decided to write.  Direct
statements leave every epoch up to the current one with its lease, hold an active state until the
recorded end of its lease, and complete it only inside its lease. -/
theorem leaseTriggers_accept (sha256 : String → String) (store : Database)
    (calls : List LeaseCall) :
    let db := (Transaction.run (LeaseWorld.step sha256) (LeaseWorld.start store) calls).db
    (∀ service admissionId reading plan,
      planAcquire service sha256 admissionId reading db = .ok plan →
        AcquireAccepted service db (service.acquire sha256 admissionId reading db) plan) ∧
    (∀ service leaseId completionDigest reading plan,
      planComplete service sha256 leaseId completionDigest reading db = .ok plan →
        service.complete sha256 leaseId completionDigest reading db = plan.write db ∧
          ∃ outcome, plan.write db = .ok outcome) ∧
    ∀ statements, let later := Transaction.run Database.statement db statements
      EpochTables later ∧ TablesProgress db later := by
  intro db
  have tables : EpochTables db := (EpochTables.start store).calls sha256 calls
  have invariant : LeaseWorldInvariant _ := (LeaseWorldInvariant.start store).run sha256 calls
  refine ⟨fun service admissionId reading plan planned => ?_,
    fun service leaseId completionDigest reading plan planned => ?_, tables.statements⟩
  · rw [acquire_eq, planned, ok_bind]
    exact (planAcquire_passed planned).accepted tables invariant.tables service
  · rw [complete_eq, planned, ok_bind]
    exact ⟨rfl, (planComplete_passed planned).accepted tables⟩

/-- The leases of an admission are numbered up to its current epoch. -/
def LeasesNumbered (db : Database) (admission : String) : Prop :=
  (leasesOf db admission).map (·.executionEpoch) = epochsUpTo (currentEpoch db admission)

/-- A lease starts when the one before has ended. -/
def LeasesFollow (db : Database) (admission : String) : Prop :=
  (leasesOf db admission).Pairwise fun earlier later => earlier.expiresAt ≤ later.acquiredAt

namespace DirectStatements

theorem newYear_inRange : 63902822400000 < 315537897600000 := by decide

theorem minuteLater_inRange : 63902822460000 < 315537897600000 := by decide

def newYear : Instant := ⟨63902822400000, newYear_inRange⟩

def minuteLater : Instant := ⟨63902822460000, minuteLater_inRange⟩

/-- An admission that has no lease. -/
def inbox : DispatchInboxRow where
  admissionId := repeatedDigit '1'
  dispatchId := repeatedDigit '2'
  envelopeDigest := repeatedDigit '3'
  outboxId := "outbox_1"
  outboxEntryDigest := repeatedDigit '4'
  executionId := "exec_1"
  workspaceId := "ws_1"
  environment := "staging"
  executionCapsuleDigest := repeatedDigit '5'
  runnerClass := "runner"
  admissionRevision := "r1"
  admissionDigest := repeatedDigit '6'
  admission := .object []

def store : Database :=
  (Database.empty.setWorkspaces [⟨"ws_1", "main", "staging", newYear.isoformat⟩]).setDispatchInbox
    [inbox]

/-- A lease of one minute, with the given number and digit. -/
def lease (epoch : Int) (digit : Char) : ExecutionLeaseRow where
  leaseId := repeatedDigit digit
  admissionId := inbox.admissionId
  dispatchId := inbox.dispatchId
  admissionDigest := inbox.admissionDigest
  executionId := inbox.executionId
  workspaceId := inbox.workspaceId
  environment := inbox.environment
  executionCapsuleDigest := inbox.executionCapsuleDigest
  runnerClass := inbox.runnerClass
  executionEpoch := epoch
  acquiredAt := newYear.isoformat
  expiresAt := minuteLater.isoformat
  clockWitnessDigest := repeatedDigit '7'
  clockWitness := .object [("witness_type", .str "clock-witness/v1")]
  leaseRevision := "r1"
  leaseDigest := repeatedDigit digit
  lease := .object [("lease_type", .str "execution-lease/v1")]

/-- The state under the lease of this number and digit, one minute later. -/
def state (epoch : Int) (digit : Char) : ExecutionEpochStateRow where
  admissionId := inbox.admissionId
  admissionDigest := inbox.admissionDigest
  executionId := inbox.executionId
  workspaceId := inbox.workspaceId
  environment := inbox.environment
  executionCapsuleDigest := inbox.executionCapsuleDigest
  runnerClass := inbox.runnerClass
  currentEpoch := epoch
  currentLeaseId := repeatedDigit digit
  currentLeaseDigest := repeatedDigit digit
  currentLeaseAcquiredAt := newYear.isoformat
  currentLeaseExpiresAt := minuteLater.isoformat
  status := .active
  completionDigest := none
  completedAt := none
  completionClockWitnessDigest := none
  completionClockWitness := none
  authorityRevision := "r1"
  updatedAt := minuteLater.isoformat

variable {epoch : Int} {digit : Char}

theorem lease_checks (positive : 1 ≤ epoch)
    (hexadecimal : digit ∈ "0123456789abcdef".toList) : (lease epoch digit).Checks :=
  ⟨isDigest_repeatedDigit hexadecimal, isDigest_repeatedDigit (by decide),
    isDigest_repeatedDigit (by decide), (by decide : NonEmpty "exec_1"),
    (by decide : EnvironmentColumn "staging"), isDigest_repeatedDigit (by decide),
    (by decide : NonEmpty "runner"), positive, nonEmpty_isoformat _, nonEmpty_isoformat _,
    isDigest_repeatedDigit (by decide), jsonColumn_object _ _, (by decide : NonEmpty "r1"),
    isDigest_repeatedDigit hexadecimal, jsonColumn_object _ _⟩

theorem state_checks (positive : 1 ≤ epoch)
    (hexadecimal : digit ∈ "0123456789abcdef".toList) : (state epoch digit).Checks :=
  ⟨isDigest_repeatedDigit (by decide), (by decide : NonEmpty "exec_1"),
    (by decide : EnvironmentColumn "staging"), isDigest_repeatedDigit (by decide),
    (by decide : NonEmpty "runner"), positive, isDigest_repeatedDigit hexadecimal,
    nonEmpty_isoformat _, nonEmpty_isoformat _, nofun, nofun, (by decide : NonEmpty "r1"),
    nonEmpty_isoformat _, .inl ⟨rfl, rfl, rfl, rfl, rfl⟩⟩

theorem insertLease_ok {db : Database} (admitted : db.dispatchInbox = [inbox])
    (workspaces : db.workspaces = [⟨"ws_1", "main", "staging", newYear.isoformat⟩])
    (positive : 1 ≤ epoch)
    (hexadecimal : digit ∈ "0123456789abcdef".toList) (fresh : (lease epoch digit).Fresh db) :
    db.execute (.insertLease (lease epoch digit)) =
      .ok (db.setExecutionLeases (db.executionLeases ++ [lease epoch digit])) := by
  simp only [Database.execute, Database.insertLease, bind_eq_ok, raiseIf_eq_ok, not_not, pure_eq_ok]
  refine ⟨(), lease_checks positive hexadecimal, (), fresh, (), ?_, (), ?_, trivial⟩
  · rw [ExecutionLeaseRow.Bound, admitted]
    exact ⟨inbox, List.mem_singleton_self _, rfl, rfl, rfl, rfl, rfl, rfl, rfl, rfl⟩
  · rw [Database.HasWorkspace, workspaces]
    exact ⟨_, List.mem_singleton_self _, rfl⟩

/-- The store with one lease and its state. -/
def leased : Database :=
  (store.setExecutionLeases [lease 1 'a']).setExecutionEpochState [state 1 'a']

/-- The store under a second lease that starts with the first. -/
def overlapping : Database :=
  (store.setExecutionLeases [lease 1 'a', lease 2 'b']).setExecutionEpochState [state 2 'b']

theorem leased_executed :
    [.insertLease (lease 1 'a'), .insertState (state 1 'a')].foldlM Database.execute store =
      .ok leased := by
  simp only [List.foldlM_cons, List.foldlM_nil, bind_pure]
  rw [insertLease_ok rfl rfl le_rfl (by decide) (List.forall_mem_nil _), ok_bind]
  refine Database.insertEpochState_ok (state_checks le_rfl (by decide)) (List.forall_mem_nil _)
    ⟨rfl, rfl, ⟨inbox, List.mem_singleton_self _, rfl, rfl, rfl, rfl, rfl, rfl, rfl⟩,
      lease 1 'a', List.mem_singleton_self _, rfl, rfl, rfl, rfl, rfl, rfl⟩
    ⟨_, List.mem_singleton_self _, rfl⟩

/-- The update guard looks at the time of the update, not at the start of the lease. -/
theorem overlapping_moved :
    (leased.setExecutionLeases [lease 1 'a', lease 2 'b']).updateEpochState (fun _ => true)
      (fun _ => state 2 'b') = .ok (some (state 2 'b'), overlapping) := by
  have apart : repeatedDigit 'b' ≠ repeatedDigit 'a' := by decide
  have checks : (state 2 'b').Checks := state_checks (by decide) (by decide)
  have guard : ExecutionEpochStateRow.UpdateGuard (state 1 'a') (state 2 'b')
      (leased.setExecutionLeases [lease 1 'a', lease 2 'b']) :=
    ⟨rfl, rfl, rfl, rfl, rfl, rfl, rfl, rfl, rfl, .inl ⟨rfl, rfl, apart, apart, le_rfl, rfl, rfl,
      rfl,
      rfl, lease 2 'b', List.mem_cons_of_mem _ (List.mem_singleton_self _), rfl, rfl, rfl, rfl, rfl,
      rfl⟩⟩
  exact Database.updateEpochState_ok (rfl : [state 1 'a'].find? (fun _ => true) = _) checks
    (List.forall_mem_nil _) guard

theorem overlapping_executed :
    [.insertLease (lease 2 'b'), .updateState (fun _ => true) (fun _ => state 2 'b')].foldlM
      Database.execute leased = .ok overlapping := by
  simp only [List.foldlM_cons, List.foldlM_nil, bind_pure]
  have apart : repeatedDigit 'a' ≠ repeatedDigit 'b' := by decide
  rw [insertLease_ok rfl rfl (by decide) (by decide), ok_bind]
  · exact Database.execute_updateState overlapping_moved
  · exact List.forall_mem_singleton.mpr ⟨apart, apart, fun same => absurd same.2 (by decide)⟩

theorem start_eq : (LeaseWorld.start store).db = store := rfl

/-- The seventh lease of an admission that has no lease is let through. -/
theorem ahead_executed :
    store.execute (.insertLease (lease 7 'a')) = .ok (store.setExecutionLeases [lease 7 'a']) :=
  insertLease_ok rfl rfl (by decide) (by decide) (List.forall_mem_nil _)

theorem both_executed :
    [.insertLease (lease 1 'a'), .insertState (state 1 'a'), .insertLease (lease 2 'b'),
      .updateState (fun _ => true) (fun _ => state 2 'b')].foldlM Database.execute
      (LeaseWorld.start store).db = .ok overlapping := by
  change ([_, _] ++ [_, _]).foldlM Database.execute store = _
  rw [List.foldlM_append, leased_executed, ok_bind, overlapping_executed]

theorem leasesOf_inbox {db : Database}
    (only : ∀ row ∈ db.executionLeases, row.admissionId = inbox.admissionId) :
    leasesOf db inbox.admissionId = db.executionLeases :=
  List.filter_eq_self.mpr fun row member => decide_eq_true (only row member)

theorem ahead_unnumbered :
    ¬LeasesNumbered (store.setExecutionLeases [lease 7 'a']) inbox.admissionId := by
  have only : ∀ row ∈ [lease 7 'a'], row.admissionId = inbox.admissionId :=
    List.forall_mem_singleton.mpr rfl
  intro numbered
  rw [LeasesNumbered, leasesOf_inbox only] at numbered
  cases numbered

theorem overlapping_disordered : ¬LeasesFollow overlapping inbox.admissionId := by
  have only : ∀ row ∈ [lease 1 'a', lease 2 'b'], row.admissionId = inbox.admissionId :=
    List.forall_mem_cons.mpr ⟨rfl, List.forall_mem_singleton.mpr rfl⟩
  intro follow
  rw [LeasesFollow, leasesOf_inbox only] at follow
  have before := (List.pairwise_cons.mp follow).1 _ (List.mem_singleton_self _)
  exact absurd (Instant.isoformat_le_isoformat.mp before) (by decide)

end DirectStatements

/-- Direct statements may number a lease ahead of its admission, and may start a lease before the
one that it follows has ended. -/
theorem leaseTriggers_admit_disorder :
    (∃ next, [.insertLease (DirectStatements.lease 7 'a')].foldlM Database.execute
        (LeaseWorld.start DirectStatements.store).db = .ok next ∧
      ¬LeasesNumbered next DirectStatements.inbox.admissionId) ∧
    ∃ next, [.insertLease (DirectStatements.lease 1 'a'),
      .insertState (DirectStatements.state 1 'a'),
        .insertLease (DirectStatements.lease 2 'b'),
        .updateState (fun _ => true) (fun _ => DirectStatements.state 2 'b')].foldlM
        Database.execute (LeaseWorld.start DirectStatements.store).db = .ok next ∧
      ¬LeasesFollow next DirectStatements.inbox.admissionId := by
  refine ⟨⟨DirectStatements.store.setExecutionLeases [DirectStatements.lease 7 'a'], ?_,
      DirectStatements.ahead_unnumbered⟩,
    DirectStatements.overlapping, ?_, DirectStatements.overlapping_disordered⟩
  · rw [List.foldlM_cons, DirectStatements.start_eq, DirectStatements.ahead_executed]
    rfl
  · exact DirectStatements.both_executed

end VoodooOne
