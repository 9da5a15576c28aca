import VoodooOne.Authorization.SnapshotRuns
import VoodooOne.Dispatch.Admissions
import VoodooOne.Verification.Store

/-!
# Effects of the pipeline

The tables between an approved request and its verified result are written by services that share
no transaction.  Each call is one of four effects, and the controls that it has read in its
transaction are part of the effect.
-/

namespace VoodooOne

open Calendar

/-- The revocation epochs of workspaces, environments and capability definitions. -/
abbrev RevocationEpochs := String → String → String → Int

namespace RevocationEpochs

def of (epochs : RevocationEpochs) (grant : ExecutionGrantV2) : Int :=
  epochs grant.workspaceId grant.environment grant.capabilityDefinitionIdentity

/-- Surroundings whose revocation authority answers, if at all, with these epochs. -/
def surround (epochs : RevocationEpochs) (surroundings : GrantSurroundings) : GrantSurroundings :=
  { surroundings with
    currentEpoch := fun db workspaceId environment identity =>
      (surroundings.currentEpoch db workspaceId environment identity).map fun _ =>
        .int (epochs workspaceId environment identity) }

end RevocationEpochs

structure PipelineWorld where
  db : Database
  epochs : RevocationEpochs

/-- One call of a service, the advance of an epoch, or any change of the tables beside the
pipeline. -/
inductive PipelineCall (sha256 : String → String) where
  | snapshot (creator : AuthoritativeSnapshotCreator sha256) (surroundings : SnapshotSurroundings)
      (actorId requestId idempotencyKey correlationId : String)
  | issueAndStore (service : DurableGrantService) (surroundings : GrantSurroundings)
      (issued : Except Raised (Option ExecutionGrantV2))
      (faults : Except Raised Unit × Except Raised Unit)
  | consumeAndEnqueue (service : DurableDispatchOutboxService) (surroundings : GrantSurroundings)
      (consumptionId outboxId jti : String) (faults : EnqueueFaults)
  | deliver (service : DurableDispatchInboxService) (envelope : DispatchEnvelope)
  | lease (call : LeaseCall)
  | store (result : VerificationResult)
      (built : VerificationResult.contract.Built sha256 result)
  | elsewhere (other : Database)
  | advance (workspaceId environment identity : String) (count : Nat)

namespace PipelineWorld

/-- A world without rows in the tables of the pipeline. -/
def start (store : Database) (epochs : RevocationEpochs) : PipelineWorld where
  db := (((VerificationCall.start store).setAuthorizationSnapshots []).setExecutionGrants
    []).setGrantConsumptions []
  epochs := epochs

def commit {α : Type} (world : PipelineWorld) (body : Database → Except Raised (α × Database)) :
    PipelineWorld :=
  { world with db := (Transaction.commit body world.db).2 }

def step {sha256 : String → String} (world : PipelineWorld) : PipelineCall sha256 → PipelineWorld
  | .snapshot creator surroundings actorId requestId idempotencyKey correlationId =>
      world.commit (creator.createSnapshot surroundings actorId requestId idempotencyKey
        correlationId)
  | .issueAndStore service surroundings issued faults =>
      world.commit (service.issueAndStore sha256 (world.epochs.surround surroundings) issued faults)
  | .consumeAndEnqueue service surroundings consumptionId outboxId jti faults =>
      world.commit (service.consumeAndEnqueue sha256 (world.epochs.surround surroundings)
        consumptionId outboxId jti faults)
  | .deliver service envelope => world.commit (service.admitEnvelope sha256 envelope)
  | .lease call => { world with db := (LeaseWorld.step sha256 ⟨world.db, []⟩ call).db }
  | .store result _ => world.commit (DurableVerificationResultStore.store sha256 result)
  | .elsewhere other =>
      { world with
        db := world.db.withExecutionTables (((other.setAuthorizationSnapshots
          world.db.authorizationSnapshots).setExecutionGrants
          world.db.executionGrants).setGrantConsumptions world.db.grantConsumptions) }
  | .advance workspaceId environment identity count =>
      { world with
        epochs := fun workspace stage definition => world.epochs workspace stage definition +
          if workspace = workspaceId ∧ stage = environment ∧ definition = identity then count
          else 0 }

end PipelineWorld

/-- The controls when a row of a grant is written. -/
structure Controlled (world : PipelineWorld) (grant : ExecutionGrantV2) (time : String) :
    Prop where
  running : world.db.emergencyStopActive = false
  permission : grant.requiredPermission = requiredExecutionPermission
  permitted : world.db.Permits (DurableGrantService.permissionQuery grant)
  inForce : ∃ now issued expires, Instant.ofIsoformat? time = some now ∧
    Instant.ofIsoformat? grant.issuedAt = some issued ∧
    Instant.ofIsoformat? grant.expiresAt = some expires ∧ issued ≤ now ∧ now < expires
  epoch : world.epochs.of grant = grant.revocationEpoch

/-- The tables up to the outbox stay as they are. -/
structure SameDispatch (db after : Database) : Prop where
  snapshots : after.authorizationSnapshots = db.authorizationSnapshots
  grants : after.executionGrants = db.executionGrants
  consumptions : after.grantConsumptions = db.grantConsumptions
  outbox : after.dispatchOutbox = db.dispatchOutbox

/-- The consumption of a stored grant and its outbox row. -/
structure Dispatched (sha256 : String → String) (world : PipelineWorld)
    (consumption : GrantConsumptionRow) (outbox : DispatchOutboxRow) : Prop where
  authority : ∃ stored ∈ world.db.executionGrants, consumption.Consumes stored ∧ ∃ grant,
    ExecutionGrantV2.fromDict sha256 stored.grant = .ok grant ∧
      Controlled world grant consumption.consumedAt
  fresh : consumption.Fresh world.db
  freshOutbox : outbox.Fresh world.db
  bound : outbox.Bound
    (world.db.setGrantConsumptions (world.db.grantConsumptions ++ [consumption]))

/-- What one step does. -/
inductive PipelineEffect (sha256 : String → String) (world : PipelineWorld) :
    PipelineWorld → Prop where
  | beside (after : PipelineWorld) (step : VerificationStep sha256 world.db after.db)
      (same : SameDispatch world.db after.db)
      (epochs : ∀ grant, world.epochs.of grant ≤ after.epochs.of grant) :
      PipelineEffect sha256 world after
  | authorized (row : AuthorizationSnapshotRow) (audit : List AuditEventRow)
      (running : world.db.emergencyStopActive = false) (fresh : row.Fresh world.db) :
      PipelineEffect sha256 world { world with
        db := (world.db.setAuthorizationSnapshots
          (world.db.authorizationSnapshots ++ [row])).setAuditEvents audit }
  | granted (row : ExecutionGrantRow) (grant : ExecutionGrantV2)
      (controlled : Controlled world grant row.storedAt) (payload : row.grant = grant.toDict)
      (fresh : row.Fresh world.db) (bound : row.Bound world.db) :
      PipelineEffect sha256 world { world with
        db := world.db.setExecutionGrants (world.db.executionGrants ++ [row]) }
  | dispatched (consumption : GrantConsumptionRow) (outbox : DispatchOutboxRow)
      (written : Dispatched sha256 world consumption outbox) :
      PipelineEffect sha256 world { world with
        db := (world.db.setGrantConsumptions
          (world.db.grantConsumptions ++ [consumption])).setDispatchOutbox
          (world.db.dispatchOutbox ++ [outbox]) }

variable {sha256 : String → String} {db after : Database} {world : PipelineWorld}

theorem VerificationStep.of_tables (outbox : after.dispatchOutbox = db.dispatchOutbox)
    (inbox : after.dispatchInbox = db.dispatchInbox)
    (leases : after.executionLeases = db.executionLeases)
    (states : after.executionEpochState = db.executionEpochState)
    (results : after.verificationResults = db.verificationResults) :
    VerificationStep sha256 db after := by
  have same : db.withExecutionTables after = after := by
    rw [Database.withExecutionTables, ← outbox, ← inbox, ← leases, ← states, ← results]
    rfl
  exact same ▸ .elsewhere after

theorem StatementEffect.same_dispatch (effect : StatementEffect db after) :
    SameDispatch db after := by
  cases effect <;> exact ⟨rfl, rfl, rfl, rfl⟩

theorem SameDispatch.trans {last : Database} (early : SameDispatch db after)
    (late : SameDispatch after last) : SameDispatch db last :=
  ⟨late.snapshots.trans early.snapshots, late.grants.trans early.grants,
    late.consumptions.trans early.consumptions, late.outbox.trans early.outbox⟩

theorem LiveAuthority.controlled {surroundings : GrantSurroundings} {grant : ExecutionGrantV2}
    {clockWitness : ClockWitness} {epoch : Int} (live : LiveAuthority
      (world.epochs.surround surroundings) world.db grant clockWitness epoch) :
    Controlled world grant clockWitness.observedAt where
  running := live.notStopped
  permission := live.permission
  permitted := live.permitted
  inForce := live.inForce
  epoch := by
    have answered := live.answered
    simp only [RevocationEpochs.surround] at answered
    cases found : surroundings.currentEpoch world.db grant.workspaceId grant.environment
        grant.capabilityDefinitionIdentity with
    | error error =>
        rw [found] at answered
        cases answered
    | ok answer =>
        rw [found] at answered
        exact (Json.int.inj (Except.ok.inj answered)).trans live.unchanged

namespace PipelineEffect

theorem writes_beside (step : VerificationStep sha256 world.db after)
    (same : SameDispatch world.db after) :
    PipelineEffect sha256 world { world with db := after } :=
  .beside _ step same fun _ => le_rfl

theorem nothing (world : PipelineWorld) : PipelineEffect sha256 world world :=
  writes_beside (.of_tables rfl rfl rfl rfl rfl) ⟨rfl, rfl, rfl, rfl⟩

theorem commit {α : Type} (body : Database → Except Raised (α × Database))
    (effect : ∀ result after, body world.db = .ok (result, after) →
      PipelineEffect sha256 world { world with db := after }) :
    PipelineEffect sha256 world (world.commit body) :=
  Transaction.commit_cases (motive := fun after => PipelineEffect sha256 world
    { world with db := after }) body world.db (nothing world) effect

theorem createSnapshot {creator : AuthoritativeSnapshotCreator sha256}
    {surroundings : SnapshotSurroundings} {actorId requestId idempotencyKey correlationId : String}
    {stored : AuthorizationSnapshot}
    (returned : creator.createSnapshot surroundings actorId requestId idempotencyKey correlationId
      world.db = .ok (stored, after)) :
    PipelineEffect sha256 world { world with db := after } := by
  obtain ⟨-, -, authorization, authorized, isStored⟩ := createSnapshot_eq_ok returned
  have running := (authorize_eq_ok authorized).running
  simp only [AuthoritativeSnapshotCreator.store, bind_eq_ok] at isStored
  obtain ⟨⟨persisted, between⟩, isPersisted, isStored⟩ := isStored
  cases found : Table.lookup (·.idempotencyKey) world.db.authorizationSnapshots
      idempotencyKey with
  | none =>
      simp only [found, bind_eq_ok, pure_eq_ok, Prod.mk.injEq] at isStored
      obtain ⟨audited, appended, -, rfl⟩ := isStored
      obtain ⟨-, inserted, rfl, fresh, rfl⟩ :=
        AuthorizationSnapshotStore.persist_fresh found isPersisted
      obtain ⟨rfl, -⟩ := Database.appendAudit_eq_ok appended
      exact .authorized _ _ running fresh
  | some row =>
      simp only [found, pure_eq_ok, Prod.mk.injEq] at isStored
      obtain ⟨-, rfl⟩ := isStored
      simp only [AuthorizationSnapshotStore.persist, bind_eq_ok, requireText_eq_ok,
        Json.str.injEq] at isPersisted
      obtain ⟨_, ⟨rfl, -⟩, _, -, isPersisted⟩ := isPersisted
      simp only [found, bind_eq_ok, pure_eq_ok, Prod.mk.injEq] at isPersisted
      obtain ⟨_, _, _, _, _, rfl⟩ := isPersisted
      exact nothing world

theorem consumeAndEnqueue {service : DurableDispatchOutboxService}
    {surroundings : GrantSurroundings} {consumptionId outboxId jti : String}
    {faults : EnqueueFaults} {entry : DispatchOutboxEntry}
    (returned : service.consumeAndEnqueue sha256 (world.epochs.surround surroundings) consumptionId
      outboxId jti faults world.db = .ok (entry, after)) :
    PipelineEffect sha256 world { world with db := after } := by
  simp only [DurableDispatchOutboxService.consumeAndEnqueue, bind_eq_ok, catching_eq_ok,
    pure_eq_ok, Prod.mk.injEq] at returned
  obtain ⟨prepared, isPrepared, _, -, _, recorded, _, ⟨_, _, inserted⟩, _, _, -, rfl⟩ := returned
  obtain ⟨stored, prepares⟩ := DurableGrantService.prepare_eq_ok isPrepared
  obtain ⟨rfl, fresh, -⟩ := DurableGrantService.recordConsumption_eq_ok recorded
  obtain ⟨rfl, freshOutbox, bound⟩ := Database.insertDispatchOutbox_eq_ok inserted
  have time : prepared.row.consumedAt = prepared.clockWitness.observedAt := by
    obtain ⟨_, _, _, made⟩ := prepares.made
    exact congrArg GrantConsumptionWitness.consumedAt made
  have shows := prepares.shows
  refine .dispatched prepared.row _ ⟨⟨stored, prepares.member, ?_, prepared.grant, prepares.read,
    time ▸ prepares.live.controlled⟩, fresh, freshOutbox, bound⟩
  exact ⟨shows.jti, shows.grantDigest, shows.executionId, shows.snapshot, shows.capsule⟩

/-- Every call has one of the effects. -/
theorem of_step (world : PipelineWorld) (call : PipelineCall sha256) :
    PipelineEffect sha256 world (world.step call) := by
  cases call with
  | snapshot creator surroundings actorId requestId idempotencyKey correlationId =>
      exact commit _ fun _ _ returned => createSnapshot returned
  | issueAndStore service surroundings issued faults =>
      refine commit _ fun grant after returned => ?_
      simp only [DurableGrantService.issueAndStore, bind_eq_ok, orRaise_eq_ok, catching_eq_ok,
        pure_eq_ok, Prod.mk.injEq] at returned
      obtain ⟨_, -, _, rfl, clockWitness, _, epoch, passed, conformance, _, stored,
        ⟨_, _, inserted⟩, _, _, rfl, rfl⟩ := returned
      obtain ⟨rfl, fresh, bound⟩ := Database.insertStoredGrant_eq_ok inserted
      have live := DurableGrantService.assertLiveAuthority_eq_ok passed
      exact .granted _ _ live.controlled rfl fresh bound
  | consumeAndEnqueue service surroundings consumptionId outboxId jti faults =>
      exact commit _ fun _ _ returned => consumeAndEnqueue returned
  | deliver service envelope =>
      refine commit _ fun result after returned => ?_
      cases DurableDispatchInboxService.admit_eq_ok returned with
      | duplicate admission => exact nothing world
      | admitted entry admission accepts fresh bound =>
          exact writes_beside (.admitted _ fresh bound) ⟨rfl, rfl, rfl, rfl⟩
  | lease call =>
      obtain ⟨middle, first, second⟩ := LeaseWorld.step_effects ⟨world.db, []⟩ call
      exact writes_beside (.leases middle _ first second)
        (first.same_dispatch.trans second.same_dispatch)
  | store result built =>
      refine commit _ fun returned after stored => ?_
      rcases DurableVerificationResultStore.store_eq_ok stored with rfl | ⟨rfl, fresh, bound⟩
      · exact nothing world
      · exact writes_beside (.stored result built fresh bound) ⟨rfl, rfl, rfl, rfl⟩
  | elsewhere other => exact writes_beside (.elsewhere _) ⟨rfl, rfl, rfl, rfl⟩
  | advance workspaceId environment identity count =>
      refine .beside _ (.of_tables rfl rfl rfl rfl rfl) ⟨rfl, rfl, rfl, rfl⟩ fun grant => ?_
      simp only [RevocationEpochs.of, PipelineWorld.step]
      split <;> omega

end PipelineEffect

end VoodooOne
