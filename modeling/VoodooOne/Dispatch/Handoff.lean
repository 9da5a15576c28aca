import VoodooOne.Dispatch.Services
import VoodooOne.Library.Pairing

/-!
# One-time consumption and its outbox row

Over every run of grant storing and consuming, consumptions and outbox rows form paired journals:
each consumption has one outbox row, and the two agree with the stored grant and with each other.
-/

namespace VoodooOne

/-- A stored grant, its consumption and its outbox row: the three rows agree on every column they
share, and the objects in their payloads agree with the rows and with each other. -/
structure Handoff (sha256 : String → String) (stored : ExecutionGrantRow)
    (consumption : GrantConsumptionRow) (outbox : DispatchOutboxRow) : Prop where
  consumes : consumption.Consumes stored
  dispatches : outbox.Dispatches consumption
  carries : outbox.Carries stored
  payloads : ∃ grant witness entry,
    ExecutionGrantV2.fromDict sha256 stored.grant = .ok grant ∧ stored.Shows grant ∧
    GrantConsumptionWitness.fromDict sha256 consumption.consumption = .ok witness ∧
    consumption.Shows witness ∧
    DispatchOutboxEntry.fromDict sha256 outbox.entry = .ok entry ∧ outbox = entry.row ∧
    entry = { DispatchOutboxEntry.draft outbox.outboxId grant witness outbox.outboxRevision with
      entryDigest := outbox.entryDigest }

def HandedOff (sha256 : String → String) (grants : List ExecutionGrantRow)
    (consumption : GrantConsumptionRow) (outbox : DispatchOutboxRow) : Prop :=
  ∃ stored ∈ grants, Handoff sha256 stored consumption outbox

theorem HandedOff.mono {sha256 : String → String} {grants : List ExecutionGrantRow}
    {consumption : GrantConsumptionRow} {outbox : DispatchOutboxRow}
    (handed : HandedOff sha256 grants consumption outbox) (more : List ExecutionGrantRow) :
    HandedOff sha256 (grants ++ more) consumption outbox := by
  obtain ⟨stored, member, handoff⟩ := handed
  exact ⟨stored, List.mem_append_left _ member, handoff⟩

theorem handoff_of_created {sha256 : String → String} {stored : ExecutionGrantRow}
    {consumption : GrantConsumptionRow} {grant : ExecutionGrantV2}
    {witness : GrantConsumptionWitness} {entry : DispatchOutboxEntry}
    {outboxId outboxRevision digest : String}
    (read : ExecutionGrantV2.fromDict sha256 stored.grant = .ok grant) (shows : stored.Shows grant)
    (witnessRead : GrantConsumptionWitness.fromDict sha256 consumption.consumption = .ok witness)
    (witnessShown : consumption.Shows witness)
    (bound : consumption.jti = grant.jti ∧ consumption.grantDigest = grant.grantDigest ∧
      consumption.executionId = grant.executionId ∧
      consumption.authorizationSnapshotDigest = grant.authorizationSnapshotDigest ∧
      consumption.executionCapsuleDigest = grant.executionCapsuleDigest ∧
      consumption.runnerClass = grant.runnerClass)
    (entryRead : DispatchOutboxEntry.fromDict sha256 entry.toDict = .ok entry)
    (created : entry = { DispatchOutboxEntry.draft outboxId grant witness outboxRevision with
      entryDigest := digest }) :
    Handoff sha256 stored consumption entry.row := by
  obtain ⟨jti, grantDigest, execution, snapshot, capsule, runner⟩ := bound
  have redrawn : entry = { DispatchOutboxEntry.draft entry.outboxId grant witness
      entry.outboxRevision with entryDigest := entry.entryDigest } := by
    rw [created]
    rfl
  have ofGrant : entry.row.jti = grant.jti ∧ entry.row.grantId = grant.grantId ∧
      entry.row.grantDigest = grant.grantDigest ∧ entry.row.executionId = grant.executionId ∧
      entry.row.requestId = grant.requestId ∧ entry.row.workspaceId = grant.workspaceId ∧
      entry.row.environment = grant.environment ∧
      entry.row.authorizationSnapshotDigest = grant.authorizationSnapshotDigest ∧
      entry.row.executionCapsuleDigest = grant.executionCapsuleDigest ∧
      entry.row.runnerClass = grant.runnerClass := by
    rw [created]
    exact ⟨rfl, rfl, rfl, rfl, rfl, rfl, rfl, rfl, rfl, rfl⟩
  have ofWitness : entry.row.consumptionId = witness.consumptionId ∧
      entry.row.consumptionWitnessDigest = witness.witnessDigest ∧
      entry.row.createdAt = witness.consumedAt := by
    rw [created]
    exact ⟨rfl, rfl, rfl⟩
  obtain ⟨entryJti, entryGrantId, entryGrant, entryExecution, entryRequest, entryWorkspace,
    entryEnvironment, entrySnapshot, entryCapsule, entryRunner⟩ := ofGrant
  obtain ⟨entryConsumption, entryWitness, entryTime⟩ := ofWitness
  exact
    { consumes := ⟨shows.jti.trans jti.symm, shows.grantDigest.trans grantDigest.symm,
        shows.executionId.trans execution.symm, shows.snapshot.trans snapshot.symm,
        shows.capsule.trans capsule.symm⟩
      dispatches := ⟨witnessShown.consumptionId.trans entryConsumption.symm,
        witnessShown.digest.trans entryWitness.symm, jti.trans entryJti.symm,
        grantDigest.trans entryGrant.symm, execution.trans entryExecution.symm,
        snapshot.trans entrySnapshot.symm, capsule.trans entryCapsule.symm,
        runner.trans entryRunner.symm, witnessShown.consumedAt.trans entryTime.symm⟩
      carries := ⟨shows.jti.trans entryJti.symm, shows.grantId.trans entryGrantId.symm,
        shows.grantDigest.trans entryGrant.symm, shows.executionId.trans entryExecution.symm,
        shows.requestId.trans entryRequest.symm, shows.workspaceId.trans entryWorkspace.symm,
        shows.environment.trans entryEnvironment.symm, shows.snapshot.trans entrySnapshot.symm,
        shows.capsule.trans entryCapsule.symm⟩
      payloads := ⟨grant, witness, entry, read, shows, witnessRead, witnessShown, entryRead, rfl,
        redrawn⟩ }

namespace DurableDispatchOutboxService

/-- What a call that returns has written. -/
structure Enqueues (sha256 : String → String) (jti : String) (db next : Database)
    (entry : DispatchOutboxEntry) (consumption : GrantConsumptionRow) : Prop where
  wanted : consumption.jti = jti
  unconsumed : ∀ row ∈ db.grantConsumptions, row.jti ≠ jti
  handed : HandedOff sha256 db.executionGrants consumption entry.row
  freshConsumption : consumption.Fresh db
  freshOutbox : ∀ other ∈ db.dispatchOutbox, other.consumptionId ≠ entry.consumptionId
  effect : next = (db.setGrantConsumptions (db.grantConsumptions ++
    [consumption])).setDispatchOutbox (db.dispatchOutbox ++ [entry.row])

theorem consumeAndEnqueue_eq_ok {service : DurableDispatchOutboxService} {sha256 : String → String}
    {surroundings : GrantSurroundings} {consumptionId outboxId jti : String}
    {faults : EnqueueFaults} {db next : Database} {entry : DispatchOutboxEntry}
    (returned : service.consumeAndEnqueue sha256 surroundings consumptionId outboxId jti faults db =
      .ok (entry, next)) :
    ∃ consumption, Enqueues sha256 jti db next entry consumption := by
  simp only [consumeAndEnqueue, bind_eq_ok, catching_eq_ok, pure_eq_ok, Prod.mk.injEq] at returned
  obtain ⟨prepared, isPrepared, outbox, created, consumed, recorded, _, ⟨_, _, inserted⟩, _, _,
    rfl, rfl⟩ := returned
  obtain ⟨stored, prepares⟩ := DurableGrantService.prepare_eq_ok isPrepared
  obtain ⟨made, digest, same⟩ := DispatchOutboxEntry.create_eq_ok created
  obtain ⟨rfl, freshConsumption, -⟩ := DurableGrantService.recordConsumption_eq_ok recorded
  obtain ⟨rfl, freshOutbox, -⟩ := Database.insertDispatchOutbox_eq_ok inserted
  have handoff : Handoff sha256 stored prepared.row outbox.row :=
    handoff_of_created prepares.read prepares.shows prepares.witnessRead prepares.shows_row
      ⟨rfl, rfl, rfl, rfl, rfl, rfl⟩ (Contract.fromDict_of_create DispatchOutboxEntry.lawful made)
        same
  exact ⟨prepared.row,
    { wanted := prepares.shows.jti.symm.trans prepares.wanted
      unconsumed := prepares.unconsumed
      handed := ⟨stored, prepares.member, handoff⟩
      freshConsumption
      freshOutbox := fun other member => (freshOutbox other member).2.1
      effect := rfl }⟩

theorem consumeAndEnqueue_of_consumed {service : DurableDispatchOutboxService}
    {sha256 : String → String} {surroundings : GrantSurroundings} {consumptionId outboxId : String}
    {faults : EnqueueFaults} {db : Database} {consumption : GrantConsumptionRow}
    (member : consumption ∈ db.grantConsumptions) :
    ∃ error, service.consumeAndEnqueue sha256 surroundings consumptionId outboxId consumption.jti
      faults db = .error error := by
  cases returned : service.consumeAndEnqueue sha256 surroundings consumptionId outboxId
      consumption.jti faults db with
  | error error => exact ⟨error, rfl⟩
  | ok outcome =>
      obtain ⟨_, enqueues⟩ := consumeAndEnqueue_eq_ok returned
      exact absurd rfl (enqueues.unconsumed consumption member)

end DurableDispatchOutboxService

/-- One call of a run.  `elsewhere` lets the other tables change in any way. -/
inductive GrantCall where
  | issueAndStore (service : DurableGrantService) (surroundings : GrantSurroundings)
      (issued : Except Raised (Option ExecutionGrantV2))
      (faults : Except Raised Unit × Except Raised Unit)
  | consumeAndEnqueue (service : DurableDispatchOutboxService) (surroundings : GrantSurroundings)
      (consumptionId outboxId jti : String) (faults : EnqueueFaults)
  | elsewhere (other : Database)

inductive GrantReply where
  | stored (grant : ExecutionGrantV2)
  | enqueued (entry : DispatchOutboxEntry)
  | changed

def GrantReply.entry? : GrantReply → Option DispatchOutboxEntry
  | .enqueued entry => some entry
  | _ => none

def entriesOf (replies : List (Except Raised GrantReply)) : List DispatchOutboxEntry :=
  replies.filterMap fun reply => reply.toOption.bind GrantReply.entry?

/-- The tables of `other` with the grant, consumption and outbox tables of the database. -/
def Database.withGrantTables (db other : Database) : Database :=
  ((other.setExecutionGrants db.executionGrants).setGrantConsumptions
    db.grantConsumptions).setDispatchOutbox db.dispatchOutbox

def GrantCall.body (sha256 : String → String) :
    GrantCall → Database → Except Raised (GrantReply × Database)
  | .issueAndStore service surroundings issued faults, db => do
      let (grant, next) ← service.issueAndStore sha256 surroundings issued faults db
      return (.stored grant, next)
  | .consumeAndEnqueue service surroundings consumptionId outboxId jti faults, db => do
      let (entry, next) ← service.consumeAndEnqueue sha256 surroundings consumptionId outboxId jti
        faults db
      return (.enqueued entry, next)
  | .elsewhere other, db => .ok (.changed, db.withGrantTables other)

/-- A database with the replies given so far. -/
structure GrantWorld where
  db : Database
  replies : List (Except Raised GrantReply)

namespace GrantWorld

/-- A database without grants, consumptions and outbox rows, before any call. -/
def start (store : Database) : GrantWorld where
  db := ((store.setExecutionGrants []).setGrantConsumptions []).setDispatchOutbox []
  replies := []

def step (sha256 : String → String) (world : GrantWorld) (call : GrantCall) : GrantWorld :=
  let (reply, db) := Transaction.commit (call.body sha256) world.db
  ⟨db, world.replies ++ [reply]⟩

end GrantWorld

inductive GrantStep (sha256 : String → String) (world : GrantWorld) : GrantWorld → Prop where
  | kept (db : Database) (reply : Except Raised GrantReply)
      (silent : reply.toOption.bind GrantReply.entry? = none)
      (grants : ∃ more, db.executionGrants = world.db.executionGrants ++ more)
      (consumptions : db.grantConsumptions = world.db.grantConsumptions)
      (outbox : db.dispatchOutbox = world.db.dispatchOutbox) :
      GrantStep sha256 world ⟨db, world.replies ++ [reply]⟩
  | enqueued (db : Database) (entry : DispatchOutboxEntry) (jti : String)
      (consumption : GrantConsumptionRow)
      (enqueues : DurableDispatchOutboxService.Enqueues sha256 jti world.db db entry consumption) :
      GrantStep sha256 world ⟨db, world.replies ++ [.ok (.enqueued entry)]⟩

theorem GrantWorld.step_cases (sha256 : String → String) (world : GrantWorld) (call : GrantCall) :
    GrantStep sha256 world (world.step sha256 call) := by
  cases returned : call.body sha256 world.db with
  | error error =>
      simp only [step, Transaction.commit_of_error returned]
      exact .kept _ _ rfl ⟨[], (List.append_nil _).symm⟩ rfl rfl
  | ok outcome =>
      obtain ⟨reply, db⟩ := outcome
      simp only [step, Transaction.commit_of_ok returned]
      cases call with
      | issueAndStore service surroundings issued faults =>
          simp only [GrantCall.body, bind_eq_ok, pure_eq_ok, Prod.mk.injEq] at returned
          obtain ⟨⟨grant, next⟩, stored, rfl, rfl⟩ := returned
          obtain ⟨row, stores⟩ := DurableGrantService.issueAndStore_eq_ok stored
          have effect := stores.effect
          subst effect
          exact .kept _ _ rfl ⟨[row], rfl⟩ rfl rfl
      | consumeAndEnqueue service surroundings consumptionId outboxId jti faults =>
          simp only [GrantCall.body, bind_eq_ok, pure_eq_ok, Prod.mk.injEq] at returned
          obtain ⟨⟨entry, next⟩, enqueued, rfl, rfl⟩ := returned
          obtain ⟨consumption, enqueues⟩ :=
            DurableDispatchOutboxService.consumeAndEnqueue_eq_ok enqueued
          exact .enqueued _ entry jti consumption enqueues
      | elsewhere other =>
          cases returned
          exact .kept _ _ rfl ⟨[], (List.append_nil _).symm⟩ rfl rfl

theorem entriesOf_append (replies more : List (Except Raised GrantReply)) :
    entriesOf (replies ++ more) = entriesOf replies ++ entriesOf more :=
  List.filterMap_append

/-- What every call keeps. -/
structure GrantInvariant (sha256 : String → String) (world : GrantWorld) : Prop where
  /-- Consumptions and outbox rows are paired by stored grants. -/
  paired : Paired (HandedOff sha256 world.db.executionGrants) (·.consumptionId) (·.consumptionId)
    world.db.grantConsumptions world.db.dispatchOutbox
  /-- No two consumptions are of one grant. -/
  grants : Table.Keyed (·.jti) world.db.grantConsumptions
  /-- No two consumptions are of one execution. -/
  executions : Table.Keyed (·.executionId) world.db.grantConsumptions
  /-- The outbox holds exactly the entries that calls returned. -/
  reported : (entriesOf world.replies).map DispatchOutboxEntry.row = world.db.dispatchOutbox

namespace GrantInvariant

variable {sha256 : String → String} {world next : GrantWorld}

theorem start (store : Database) : GrantInvariant sha256 (GrantWorld.start store) :=
  ⟨.nil, Table.keyed_nil, Table.keyed_nil, rfl⟩

theorem step (invariant : GrantInvariant sha256 world) (step : GrantStep sha256 world next) :
    GrantInvariant sha256 next := by
  cases step with
  | kept db reply silent grants consumptions outbox =>
      obtain ⟨more, grants⟩ := grants
      refine ⟨?_, ?_, ?_, ?_⟩
      · rw [grants, consumptions, outbox]
        exact invariant.paired.imp fun _ _ handed => handed.mono more
      · rw [consumptions]
        exact invariant.grants
      · rw [consumptions]
        exact invariant.executions
      · rw [outbox, ← invariant.reported]
        simp [entriesOf, silent]
  | enqueued db entry jti consumption enqueues =>
      have same : consumption.consumptionId = entry.row.consumptionId := by
        obtain ⟨_, _, handoff⟩ := enqueues.handed
        exact handoff.dispatches.1
      have fresh := enqueues.freshConsumption
      rw [enqueues.effect]
      refine ⟨?_, ?_, ?_, ?_⟩
      · exact invariant.paired.append enqueues.handed same fun other member =>
          (fresh other member).1
      · exact invariant.grants.append fun other member => (fresh other member).2.1
      · exact invariant.executions.append fun other member => (fresh other member).2.2.2.1
      · have last : entriesOf [.ok (.enqueued entry)] = [entry] := rfl
        rw [entriesOf_append, last, List.map_append, invariant.reported]
        rfl

theorem run (invariant : GrantInvariant sha256 world) (calls : List GrantCall) :
    GrantInvariant sha256 (Transaction.run (GrantWorld.step sha256) world calls) :=
  Transaction.run_invariant (fun state call held => held.step (state.step_cases sha256 call))
    invariant calls

end GrantInvariant

theorem GrantStep.consumptions_kept {sha256 : String → String} {world next : GrantWorld}
    (step : GrantStep sha256 world next) :
    world.db.grantConsumptions <+: next.db.grantConsumptions := by
  cases step with
  | kept db reply silent grants consumptions outbox => exact consumptions ▸ List.prefix_rfl
  | enqueued db entry jti consumption enqueues =>
      rw [enqueues.effect]
      exact List.prefix_append _ _

theorem GrantWorld.consumptions_kept (sha256 : String → String) (world : GrantWorld)
    (calls : List GrantCall) : world.db.grantConsumptions <+:
      (Transaction.run (GrantWorld.step sha256) world calls).db.grantConsumptions := by
  induction calls generalizing world with
  | nil => exact List.prefix_rfl
  | cons call calls induction =>
      exact (world.step_cases sha256 call).consumptions_kept.trans
        (induction (world.step sha256 call))

/-- One-time consumption and its outbox rows in one world. -/
structure GrantSafety (sha256 : String → String) (world : GrantWorld) : Prop where
  /-- A grant is consumed at most once. -/
  grants : (world.db.grantConsumptions.map (·.jti)).Nodup
  /-- An execution is consumed at most once. -/
  executions : (world.db.grantConsumptions.map (·.executionId)).Nodup
  /-- A consumption exists exactly when it has one single outbox row. -/
  exactlyOne : ∀ consumptionId,
    (∃ consumption ∈ world.db.grantConsumptions, consumption.consumptionId = consumptionId) ↔
      (world.db.dispatchOutbox.filter (·.consumptionId = consumptionId)).length = 1
  /-- The outbox row of a consumption agrees with it and with the stored grant. -/
  agreement : ∀ consumption ∈ world.db.grantConsumptions, ∀ outbox ∈ world.db.dispatchOutbox,
    consumption.consumptionId = outbox.consumptionId →
      ∃ stored ∈ world.db.executionGrants, Handoff sha256 stored consumption outbox
  /-- The outbox holds exactly the entries that calls returned. -/
  reported : (entriesOf world.replies).map DispatchOutboxEntry.row = world.db.dispatchOutbox
  /-- A call that raises changes nothing. -/
  atomic : ∀ (call : GrantCall) error,
    (Transaction.commit (call.body sha256) world.db).1 = .error error →
      (world.step sha256 call).db = world.db

theorem GrantInvariant.safety {sha256 : String → String} {world : GrantWorld}
    (invariant : GrantInvariant sha256 world) : GrantSafety sha256 world where
  grants := invariant.grants
  executions := invariant.executions
  exactlyOne := invariant.paired.exactly_one
  agreement _ consumptionMember _ outboxMember same :=
    invariant.paired.related_of_mem consumptionMember outboxMember same
  reported := invariant.reported
  atomic _ _ raised := Transaction.commit_rollback raised

/-- One-time consumption with its outbox row over whole runs; a consumed grant stays consumed and
is refused ever after. -/
theorem grantConsumption_once (sha256 : String → String) (store : Database)
    (calls later : List GrantCall) :
    let world := Transaction.run (GrantWorld.step sha256) (GrantWorld.start store) calls
    let after := Transaction.run (GrantWorld.step sha256) world later
    GrantSafety sha256 world ∧ ∀ consumption ∈ world.db.grantConsumptions,
      consumption ∈ after.db.grantConsumptions ∧
        ∀ (service : DurableDispatchOutboxService) surroundings consumptionId outboxId faults,
          ∃ error, service.consumeAndEnqueue sha256 surroundings consumptionId outboxId
            consumption.jti faults after.db = .error error := by
  intro world after
  have invariant : GrantInvariant sha256 world := (GrantInvariant.start store).run calls
  refine ⟨invariant.safety, fun consumption member => ?_⟩
  have kept : consumption ∈ after.db.grantConsumptions :=
    (world.consumptions_kept sha256 later).subset member
  exact ⟨kept, fun _ _ _ _ _ => DurableDispatchOutboxService.consumeAndEnqueue_of_consumed kept⟩

end VoodooOne
