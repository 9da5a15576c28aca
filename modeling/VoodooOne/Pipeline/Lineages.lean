import VoodooOne.Pipeline.Effects

/-!
# Lineages over runs

In every interleaving of the calls an admitted execution has one lineage: one snapshot, grant,
consumption and outbox entry, which name each other and stay.
-/

namespace VoodooOne

variable {sha256 : String → String} {world after : PipelineWorld}

/-- The keys of the tables, and the rows of the tables before that each row names. -/
structure Lineages (sha256 : String → String) (db : Database) : Prop where
  idempotencyKeys : Table.Keyed (·.idempotencyKey) db.authorizationSnapshots
  snapshotKeys : Table.Keyed (·.executionId) db.authorizationSnapshots
  grantKeys : Table.Keyed (·.executionId) db.executionGrants
  consumptionKeys : Table.Keyed (·.executionId) db.grantConsumptions
  granted : ∀ row ∈ db.executionGrants, row.Bound db
  dispatched : ∀ row ∈ db.dispatchOutbox, row.Bound db
  executions : VerificationInvariant sha256 db

/-- The rows that lead to one admission. -/
structure Lineage where
  snapshot : AuthorizationSnapshotRow
  grant : ExecutionGrantRow
  consumption : GrantConsumptionRow
  outbox : DispatchOutboxRow
  admission : DispatchInboxRow

theorem VerificationStep.inbox {db after : Database} (step : VerificationStep sha256 db after) :
    db.dispatchInbox <+: after.dispatchInbox := by
  cases step with
  | leases middle _ first second => rw [second.beside.2.1, first.beside.2.1]
  | admitted row fresh bound => exact List.prefix_append _ _
  | _ => exact List.prefix_rfl

namespace Lineage

/-- Each row names the rows before it. -/
structure Linked (lineage : Lineage) : Prop where
  authorizes : lineage.snapshot.snapshotDigest = lineage.grant.authorizationSnapshotDigest ∧
    lineage.snapshot.executionId = lineage.grant.executionId ∧
    lineage.snapshot.requestId = lineage.grant.requestId ∧
    lineage.snapshot.workspaceId = lineage.grant.workspaceId ∧
    lineage.snapshot.environment = lineage.grant.environment
  dispatches : lineage.outbox.Dispatches lineage.consumption
  carries : lineage.outbox.Carries lineage.grant
  admits : lineage.admission.Admits lineage.outbox

structure Stored (lineage : Lineage) (db : Database) : Prop where
  snapshot : lineage.snapshot ∈ db.authorizationSnapshots
  grant : lineage.grant ∈ db.executionGrants
  consumption : lineage.consumption ∈ db.grantConsumptions
  outbox : lineage.outbox ∈ db.dispatchOutbox
  admission : lineage.admission ∈ db.dispatchInbox

theorem Stored.step {lineage : Lineage} (stored : lineage.Stored world.db)
    (effect : PipelineEffect sha256 world after) : lineage.Stored after.db := by
  cases effect with
  | beside after step same epochs =>
      obtain ⟨snapshots, grants, consumptions, outbox⟩ := same
      exact ⟨snapshots ▸ stored.snapshot, grants ▸ stored.grant,
        consumptions ▸ stored.consumption, outbox ▸ stored.outbox,
        step.inbox.subset stored.admission⟩
  | authorized row audit running fresh =>
      exact { stored with snapshot := List.mem_append_left _ stored.snapshot }
  | granted row grant controlled payload fresh bound =>
      exact { stored with grant := List.mem_append_left _ stored.grant }
  | dispatched consumption outbox written =>
      exact
        { stored with
          consumption := List.mem_append_left _ stored.consumption
          outbox := List.mem_append_left _ stored.outbox }

theorem Stored.run {lineage : Lineage} (stored : lineage.Stored world.db)
    (calls : List (PipelineCall sha256)) :
    lineage.Stored (Transaction.run PipelineWorld.step world calls).db := by
  induction calls generalizing world with
  | nil => exact stored
  | cons call calls induction => exact induction (stored.step (.of_step world call))

end Lineage

namespace Lineages

theorem start (store : Database) (epochs : RevocationEpochs) :
    Lineages sha256 (PipelineWorld.start store epochs).db where
  idempotencyKeys := Table.keyed_nil
  snapshotKeys := Table.keyed_nil
  grantKeys := Table.keyed_nil
  consumptionKeys := Table.keyed_nil
  granted := List.forall_mem_nil _
  dispatched := List.forall_mem_nil _
  executions := (VerificationInvariant.start store).step (.of_tables rfl rfl rfl rfl rfl)

theorem step (held : Lineages sha256 world.db) (effect : PipelineEffect sha256 world after) :
    Lineages sha256 after.db := by
  cases effect with
  | beside after step same epochs =>
      obtain ⟨snapshots, grants, consumptions, outbox⟩ := same
      exact
        { idempotencyKeys := snapshots ▸ held.idempotencyKeys
          snapshotKeys := snapshots ▸ held.snapshotKeys
          grantKeys := grants ▸ held.grantKeys
          consumptionKeys := consumptions ▸ held.consumptionKeys
          granted := by simpa only [ExecutionGrantRow.Bound, snapshots, grants] using held.granted
          dispatched := by
            simpa only [DispatchOutboxRow.Bound, grants, consumptions, outbox] using held.dispatched
          executions := held.executions.step step }
  | authorized row audit running fresh =>
      refine
        { held with
          idempotencyKeys := held.idempotencyKeys.append fun other member =>
            (fresh other member).2.2.1
          snapshotKeys := held.snapshotKeys.append fun other member => (fresh other member).2.1
          granted := fun grant member => ?_
          executions := held.executions.step (.of_tables rfl rfl rfl rfl rfl) }
      obtain ⟨snapshot, stored, named⟩ := held.granted grant member
      exact ⟨snapshot, List.mem_append_left _ stored, named⟩
  | granted row grant controlled payload fresh bound =>
      refine
        { held with
          grantKeys := held.grantKeys.append fun other member => (fresh other member).2.2.1
          granted := List.forall_mem_append.mpr
            ⟨held.granted, List.forall_mem_singleton.mpr bound⟩
          dispatched := fun entry member => ?_
          executions := held.executions.step (.of_tables rfl rfl rfl rfl rfl) }
      obtain ⟨consumption, stored, dispatches, grant, grantStored, carried⟩ :=
        held.dispatched entry member
      exact ⟨consumption, stored, dispatches, grant, List.mem_append_left _ grantStored, carried⟩
  | dispatched consumption outbox written =>
      have consumed : VerificationInvariant sha256 (world.db.setGrantConsumptions
          (world.db.grantConsumptions ++ [consumption])) :=
        held.executions.step (.of_tables rfl rfl rfl rfl rfl)
      refine
        { held with
          consumptionKeys := held.consumptionKeys.append fun other member =>
            (written.fresh other member).2.2.2.1
          dispatched := List.forall_mem_append.mpr
            ⟨fun entry member => ?_, List.forall_mem_singleton.mpr written.bound⟩
          executions := consumed.step (.enqueued outbox written.freshOutbox) }
      obtain ⟨earlier, stored, dispatches⟩ := held.dispatched entry member
      exact ⟨earlier, List.mem_append_left _ stored, dispatches⟩

theorem run (held : Lineages sha256 world.db) (calls : List (PipelineCall sha256)) :
    Lineages sha256 (Transaction.run PipelineWorld.step world calls).db := by
  induction calls generalizing world with
  | nil => exact held
  | cons call calls induction => exact induction (held.step (.of_step world call))

theorem admission_keys {db : Database} (held : Lineages sha256 db) :
    Table.Keyed (·.executionId) db.dispatchInbox := by
  refine held.executions.inboxKeys.through DispatchOutboxRow.outboxId held.executions.outboxKeys
    fun row member => ?_
  obtain ⟨entry, stored, admits⟩ := held.executions.admits row member
  exact ⟨entry, stored, admits.1, admits.2.2.1⟩

theorem state_keys {db : Database} (held : Lineages sha256 db) :
    Table.Keyed (·.executionId) db.executionEpochState :=
  held.executions.tables.stateKeys.through DispatchInboxRow.admissionId held.admission_keys
    held.executions.tables.admitted

theorem lineage {db : Database} (held : Lineages sha256 db) {admission : DispatchInboxRow}
    (member : admission ∈ db.dispatchInbox) :
    ∃ lineage : Lineage, lineage.admission = admission ∧ lineage.Linked ∧ lineage.Stored db := by
  obtain ⟨outbox, outboxStored, admits⟩ := held.executions.admits admission member
  obtain ⟨consumption, consumptionStored, dispatches, grant, grantStored, -, carries⟩ :=
    held.dispatched outbox outboxStored
  obtain ⟨snapshot, snapshotStored, authorizes⟩ := held.granted grant grantStored
  exact ⟨⟨snapshot, grant, consumption, outbox, admission⟩, rfl,
    ⟨authorizes, dispatches, carries, admits⟩,
    ⟨snapshotStored, grantStored, consumptionStored, outboxStored, member⟩⟩

end Lineages

/-- In every interleaving of the services no table has two rows of one execution, no key has two
executions, and every admission has its lineage, now and in every later world. -/
theorem lineages_single (sha256 : String → String) (store : Database) (epochs : RevocationEpochs)
    (calls later : List (PipelineCall sha256)) :
    let world := Transaction.run PipelineWorld.step (PipelineWorld.start store epochs) calls
    let after := Transaction.run PipelineWorld.step world later
    Lineages sha256 world.db ∧ Table.Keyed (·.executionId) world.db.dispatchInbox ∧
      Table.Keyed (·.executionId) world.db.executionEpochState ∧
      ∀ admission ∈ world.db.dispatchInbox, ∃ lineage : Lineage, lineage.admission = admission ∧
        lineage.Linked ∧ lineage.Stored world.db ∧ lineage.Stored after.db := by
  intro world after
  have held : Lineages sha256 world.db := (Lineages.start store epochs).run calls
  refine ⟨held, held.admission_keys, held.state_keys, fun admission member => ?_⟩
  obtain ⟨lineage, same, linked, stored⟩ := held.lineage member
  exact ⟨lineage, same, linked, stored, stored.run later⟩

end VoodooOne
