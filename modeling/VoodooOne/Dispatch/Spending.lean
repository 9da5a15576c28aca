import VoodooOne.Authorization.SnapshotRuns
import VoodooOne.Change.Runs
import VoodooOne.Dispatch.Handoff
import VoodooOne.Lease.Acceptance

/-!
# How an approval is spent

An approved request is executed through its adapter, or authorized by a snapshot and dispatched.
The
status of the request is read when an execution starts and when a snapshot is created, but not when
a grant is stored or consumed.
-/

namespace VoodooOne

/-- Whether a call of the change services is one of them, and not a change of other tables. -/
def ChangeCall.ofService : ChangeCall → Bool
  | elsewhere _ => false
  | _ => true

/-- One call: of the change services, a creation of a snapshot, a call of the grant services, or any
change of other tables. -/
inductive SpendingCall (sha256 : String → String) where
  | change (call : ChangeCall) (ofService : call.ofService = true)
  | snapshot (creator : AuthoritativeSnapshotCreator sha256) (surroundings : SnapshotSurroundings)
      (actorId requestId idempotencyKey correlationId : String)
  | issueAndStore (service : DurableGrantService) (surroundings : GrantSurroundings)
      (issued : Except Raised (Option ExecutionGrantV2))
      (faults : Except Raised Unit × Except Raised Unit)
  | consume (service : DurableGrantService) (surroundings : GrantSurroundings)
      (consumptionId jti : String) (faults : Except Raised Unit × Except Raised Unit)
  | consumeAndEnqueue (service : DurableDispatchOutboxService) (surroundings : GrantSurroundings)
      (consumptionId outboxId jti : String) (faults : EnqueueFaults)
  | elsewhere (other : Database)

namespace SpendingCall

variable {sha256 : String → String}

def body (pending : List PendingExecution) :
    SpendingCall sha256 → Database → Except Raised (Option PendingExecution × Database)
  | change call _, db => call.body sha256 pending db
  | snapshot creator surroundings actorId requestId idempotencyKey correlationId, db => do
      let (_, next) ← creator.createSnapshot surroundings actorId requestId idempotencyKey
        correlationId db
      return (none, next)
  | issueAndStore service surroundings issued faults, db => do
      let (_, next) ← service.issueAndStore sha256 surroundings issued faults db
      return (none, next)
  | consume service surroundings consumptionId jti faults, db => do
      let (_, next) ← service.consume sha256 surroundings consumptionId jti faults db
      return (none, next)
  | consumeAndEnqueue service surroundings consumptionId outboxId jti faults, db => do
      let (_, next) ← service.consumeAndEnqueue sha256 surroundings consumptionId outboxId jti
        faults db
      return (none, next)
  | elsewhere other, db => .ok (none, db.withLifecycle
      (db.withGrantTables (other.setAuthorizationSnapshots db.authorizationSnapshots)))

def step (world : ChangeWorld) (call : SpendingCall sha256) : ChangeWorld :=
  let (reply, db) := Transaction.commit (call.body world.pending) world.db
  ⟨db, world.pending ++ startedBy reply⟩

theorem step_of_ok {world : ChangeWorld} {call : SpendingCall sha256}
    {reply : Option PendingExecution} {next : Database}
    (returned : call.body world.pending world.db = .ok (reply, next)) :
    call.step world = ⟨next, world.pending ++ startedBy (.ok reply)⟩ := by
  rw [step, Transaction.commit_of_ok returned]

/-- The request whose execution a call may start. -/
def executes : SpendingCall sha256 → Option String
  | change (.execute _ _ _ requestId _) _ => some requestId
  | _ => none

/-- A call starts no execution of a request that has a snapshot. -/
def LeavesAuthorized (world : ChangeWorld) (call : SpendingCall sha256) : Prop :=
  ∀ requestId ∈ call.executes, ∀ row ∈ world.db.authorizationSnapshots, row.requestId ≠ requestId

end SpendingCall

def Database.Approved (db : Database) (requestId : String) : Prop :=
  ∃ request ∈ db.changeRequests, request.id = requestId ∧ request.status = .approved

/-- Every row that is added belongs to a request that is approved when it commits. -/
structure SpendsApproved (db next : Database) : Prop where
  snapshots : ∀ row ∈ next.authorizationSnapshots, row ∉ db.authorizationSnapshots →
    next.Approved row.requestId
  grants : ∀ row ∈ next.executionGrants, row ∉ db.executionGrants → next.Approved row.requestId
  consumptions : ∀ row ∈ next.grantConsumptions, row ∉ db.grantConsumptions →
    ∃ grant ∈ next.executionGrants, grant.jti = row.jti ∧ next.Approved grant.requestId
  outbox : ∀ row ∈ next.dispatchOutbox, row ∉ db.dispatchOutbox → next.Approved row.requestId

/-- Every authorization leads back to an approved request. -/
structure AuthorizationsApproved (db : Database) : Prop where
  snapshots : ∀ row ∈ db.authorizationSnapshots, db.Approved row.requestId
  grants : ∀ row ∈ db.executionGrants, ∃ snapshot ∈ db.authorizationSnapshots,
    snapshot.requestId = row.requestId
  consumptions : ∀ row ∈ db.grantConsumptions, ∃ grant ∈ db.executionGrants, grant.jti = row.jti
  outbox : ∀ row ∈ db.dispatchOutbox, ∃ grant ∈ db.executionGrants,
    grant.requestId = row.requestId

namespace AuthorizationsApproved

variable {db next : Database}

theorem grants_approved (held : AuthorizationsApproved db) {row : ExecutionGrantRow}
    (member : row ∈ db.executionGrants) : db.Approved row.requestId := by
  obtain ⟨snapshot, snapshotMember, same⟩ := held.grants row member
  exact same ▸ held.snapshots snapshot snapshotMember

/-- Where every authorization leads back to an approved request, every new one does. -/
theorem spendsApproved (held : AuthorizationsApproved next) : SpendsApproved db next where
  snapshots row member _ := held.snapshots row member
  grants _ member _ := held.grants_approved member
  consumptions row member _ := by
    obtain ⟨grant, grantMember, same⟩ := held.consumptions row member
    exact ⟨grant, grantMember, same, held.grants_approved grantMember⟩
  outbox row member _ := by
    obtain ⟨grant, grantMember, same⟩ := held.outbox row member
    exact same ▸ held.grants_approved grantMember

end AuthorizationsApproved

/-- A call of the change services leaves the authorizations alone, and starts no execution but that
of the request `starts`. -/
structure KeepsAuthorizations (starts : Option String) (db next : Database) : Prop where
  snapshots : next.authorizationSnapshots = db.authorizationSnapshots
  grants : next.executionGrants = db.executionGrants
  consumptions : next.grantConsumptions = db.grantConsumptions
  outbox : next.dispatchOutbox = db.dispatchOutbox
  executions : ∀ execution ∈ next.executions,
    (∃ old ∈ db.executions, old.requestId = execution.requestId) ∨ execution.requestId ∈ starts

namespace KeepsAuthorizations

variable {starts : Option String} {first second third : Database}

theorem of_executions (snapshots : second.authorizationSnapshots = first.authorizationSnapshots)
    (grants : second.executionGrants = first.executionGrants)
    (consumptions : second.grantConsumptions = first.grantConsumptions)
    (outbox : second.dispatchOutbox = first.dispatchOutbox)
    (executions : second.executions = first.executions) :
    KeepsAuthorizations starts first second :=
  ⟨snapshots, grants, consumptions, outbox,
    fun execution member => .inl ⟨execution, executions ▸ member, rfl⟩⟩

theorem refl (db : Database) : KeepsAuthorizations starts db db :=
  .of_executions rfl rfl rfl rfl rfl

theorem trans (early : KeepsAuthorizations starts first second)
    (late : KeepsAuthorizations starts second third) : KeepsAuthorizations starts first third where
  snapshots := late.snapshots.trans early.snapshots
  grants := late.grants.trans early.grants
  consumptions := late.consumptions.trans early.consumptions
  outbox := late.outbox.trans early.outbox
  executions execution member := by
    rcases late.executions execution member with ⟨middle, middleMember, same⟩ | started
    · rcases early.executions middle middleMember with ⟨old, oldMember, again⟩ | started
      · exact .inl ⟨old, oldMember, again.trans same⟩
      · exact .inr (same ▸ started)
    · exact .inr started

variable {db next : Database} {sha256 : String → String}

theorem insertChangeRequest {row : ChangeRequestRow}
    (inserted : db.insertChangeRequest row = .ok next) : KeepsAuthorizations starts db next := by
  obtain ⟨rfl, -⟩ := Database.insertChangeRequest_eq_ok inserted
  exact .of_executions rfl rfl rfl rfl rfl

theorem updateChangeRequest {requestId : String} {change : ChangeRequestRow → ChangeRequestRow}
    (updated : db.updateChangeRequest requestId change = .ok next) :
    KeepsAuthorizations starts db next := by
  cases found : Table.lookup (·.id) db.changeRequests requestId with
  | none =>
      rw [Database.updateChangeRequest, found] at updated
      cases updated
      exact .refl db
  | some old =>
      obtain rfl := Database.updateChangeRequest_eq_ok updated found
      exact .of_executions rfl rfl rfl rfl rfl

theorem insertApproval {row : ApprovalRow} (inserted : db.insertApproval row = .ok next) :
    KeepsAuthorizations starts db next := by
  obtain ⟨rfl, -⟩ := Database.insertApproval_eq_ok inserted
  exact .of_executions rfl rfl rfl rfl rfl

theorem insertExecution {row : ExecutionRow} (inserted : db.insertExecution row = .ok next) :
    KeepsAuthorizations (some row.requestId) db next := by
  obtain ⟨rfl, -⟩ := Database.insertExecution_eq_ok inserted
  refine ⟨rfl, rfl, rfl, rfl, fun execution member => ?_⟩
  rcases List.mem_append.mp member with old | new
  · exact .inl ⟨execution, old, rfl⟩
  · obtain rfl := List.mem_singleton.mp new
    exact .inr rfl

theorem updateExecution {executionId : String} {condition : ExecutionRow → Bool}
    {change : ExecutionRow → ExecutionRow} {row : ExecutionRow}
    (updated : db.updateExecution executionId condition change = some (row, next))
    (same : ∀ old, (change old).requestId = old.requestId) :
      KeepsAuthorizations starts db next := by
  obtain ⟨old, found, -, rfl⟩ := Database.updateExecution_eq_some updated
  refine ⟨rfl, rfl, rfl, rfl, fun execution member => .inl ?_⟩
  rcases Table.mem_replace.mp member with ⟨rfl, -⟩ | ⟨kept, -⟩
  · exact ⟨old, (Table.mem_of_lookup found).1, (same old).symm⟩
  · exact ⟨execution, kept, rfl⟩

theorem appendReceipt {stamp : Stamp} {executionId : String} {payload : Json} {row : ReceiptRow}
    (appended : db.appendReceipt sha256 stamp executionId payload = .ok (row, next)) :
    KeepsAuthorizations starts db next := by
  obtain ⟨rfl, -⟩ := Database.appendReceipt_eq_ok appended
  exact .of_executions rfl rfl rfl rfl rfl

theorem appendAudit {stamp : Stamp} {entry : AuditEntry}
    (appended : db.appendAudit sha256 stamp entry = .ok next) :
      KeepsAuthorizations starts db next := by
  obtain ⟨rfl, -⟩ := Database.appendAudit_eq_ok appended
  exact .of_executions rfl rfl rfl rfl rfl

variable {supplies : CallSupplies}

theorem start {service : ExecutionService} {actorId requestId : String}
    {idempotencyKey : Option String} {pending : PendingExecution}
    (returned : service.start sha256 supplies actorId requestId idempotencyKey db =
      .ok (pending, next)) : KeepsAuthorizations (some requestId) db next := by
  simp only [ExecutionService.start, bind_eq_ok, orRaise_eq_ok, raiseIf_eq_ok, pure_eq_ok,
    Prod.mk.injEq] at returned
  obtain ⟨_, _, _, _, _, _, _, _, _, _, _, _, _, _, _, inserted, _, updated, _, audited, _, _, _,
    rfl⟩ := returned
  exact (insertExecution inserted).trans ((updateChangeRequest updated).trans (appendAudit audited))

theorem complete {pending : PendingExecution} {outcome : AdapterOutcome} {recorded : Bool}
    (returned : ExecutionService.complete sha256 supplies pending outcome db =
      .ok (recorded, next)) : KeepsAuthorizations starts db next := by
  simp only [ExecutionService.complete] at returned
  split at returned
  · simp only [bind_eq_ok, pure_eq_ok, Prod.mk.injEq] at returned
    obtain ⟨_, _, _, rfl⟩ := returned
    exact .refl db
  · next recorded =>
    simp only [bind_eq_ok, pure_eq_ok, Prod.mk.injEq] at returned
    obtain ⟨_, updated, ⟨_, _⟩, receipted, _, audited, _, _, _, rfl⟩ := returned
    exact (updateExecution recorded fun _ => rfl).trans
      ((updateChangeRequest updated).trans ((appendReceipt receipted).trans (appendAudit audited)))

theorem recover {service : ExecutionService} {actorId executionId reason : String} {result : Unit}
    (returned : service.recover sha256 supplies actorId executionId reason db =
      .ok (result, next)) :
    KeepsAuthorizations starts db next := by
  simp only [ExecutionService.recover, bind_eq_ok, orRaise_eq_ok, raiseIf_eq_ok, pure_eq_ok,
    Prod.mk.injEq] at returned
  obtain ⟨_, _, _, _, _, _, _, _, _, _, _, _, _, _, ⟨_, _⟩, recorded, _, updated, ⟨_, _⟩, receipted,
    _, audited, _, _, _, rfl⟩ := returned
  exact (updateExecution recorded fun _ => rfl).trans
    ((updateChangeRequest updated).trans ((appendReceipt receipted).trans (appendAudit audited)))

theorem call {call : ChangeCall} {pending : List PendingExecution}
    {reply : Option PendingExecution} (ofService : call.ofService = true)
    (returned : call.body sha256 pending db = .ok (reply, next)) :
    KeepsAuthorizations (.change call ofService : SpendingCall sha256).executes db next := by
  cases call with
  | create supplies actorId workspaceId title description risk environment adapter payload =>
      simp only [ChangeCall.body, ChangeRequestService.createChangeRequest, bind_eq_ok, pure_eq_ok,
        Prod.mk.injEq] at returned
      obtain ⟨⟨_, _⟩, ⟨_, _, _, _, _, _, _, _, _, _, _, _, _, inserted, _, audited, _, _, _, rfl⟩,
        _, rfl⟩ := returned
      exact (insertChangeRequest inserted).trans (appendAudit audited)
  | submit supplies actorId requestId =>
      simp only [ChangeCall.body, ChangeRequestService.submitChangeRequest, bind_eq_ok, pure_eq_ok,
        Prod.mk.injEq] at returned
      obtain ⟨⟨_, _⟩, ⟨_, _, _, _, _, _, _, _, _, _, _, updated, _, audited, _, _, _, rfl⟩, _,
        rfl⟩ := returned
      exact (updateChangeRequest updated).trans (appendAudit audited)
  | approve service supplies actorId requestId decision reason =>
      simp only [ChangeCall.body, ChangeRequestService.approveChangeRequest, bind_eq_ok,
        catching_eq_ok, pure_eq_ok, Prod.mk.injEq] at returned
      obtain ⟨⟨_, _⟩, ⟨_, _, _, _, _, _, _, _, _, _, _, _, _, _, _, _, _, _, _, inserted, _,
        updated, _, audited, _, _, _, rfl⟩, _, rfl⟩ := returned
      exact (insertApproval inserted).trans
        ((updateChangeRequest updated).trans (appendAudit audited))
  | execute service supplies actorId requestId idempotencyKey =>
      simp only [ChangeCall.body, ExecutionService.execute, bind_eq_ok, pure_eq_ok,
        Prod.mk.injEq] at returned
      obtain ⟨⟨_, _⟩, ⟨existing, _, executed⟩, _, rfl⟩ := returned
      cases existing with
      | some executionId =>
          cases executed
          exact .refl db
      | none =>
          simp only [bind_eq_ok, pure_eq_ok, Prod.mk.injEq] at executed
          obtain ⟨⟨_, _⟩, started, _, rfl⟩ := executed
          exact start started
  | complete supplies index outcome =>
      simp only [ChangeCall.body] at returned
      split at returned
      · cases returned
        exact .refl db
      · simp only [bind_eq_ok, pure_eq_ok, Prod.mk.injEq] at returned
        obtain ⟨⟨_, _⟩, completed, _, rfl⟩ := returned
        exact complete completed
  | recover service supplies actorId executionId reason =>
      simp only [ChangeCall.body, bind_eq_ok, pure_eq_ok, Prod.mk.injEq] at returned
      obtain ⟨⟨_, _⟩, recovered, _, rfl⟩ := returned
      exact recover recovered
  | elsewhere other => cases ofService

end KeepsAuthorizations

theorem LifecycleStep.approved_kept {sha256 : String → String} {before after : LifecycleTables}
    {request : ChangeRequestRow} (invariant : LifecycleInvariant before)
    (step : LifecycleStep sha256 before after) (member : request ∈ before.requests)
    (approved : request.status = .approved) :
    request ∈ after.requests ∨ ∃ execution ∈ after.executions, execution.requestId =
      request.id := by
  -- a row that is replaced was not approved, unless its execution starts
  have other {old new : ChangeRequestRow} (found : Table.lookup (·.id) before.requests old.id =
      some old) (sameId : new.id = old.id) (unapproved : old.status ≠ .approved) :
      request ∈ Table.replace (·.id) before.requests new := by
    refine Table.mem_replace.mpr (.inr ⟨member, fun same => unapproved ?_⟩)
    obtain rfl := invariant.requestKeys.unique member (Table.mem_of_lookup found).1
      (same.trans sameId)
    exact approved
  cases step with
  | idle => exact .inl member
  | created new draft unbound fresh => exact .inl (List.mem_append_left _ member)
  | submitted old digest now found draft bound =>
      exact .inl (other found rfl (by rw [draft]; decide))
  | decided old approval status now found awaiting ofRequest independent bound once verdict =>
      exact .inl (other found rfl (by rw [awaiting]; decide))
  | started old execution now found isApproved ofRequest running fresh =>
      by_cases same : request.id = old.id
      · exact .inr ⟨execution, List.mem_append_right _ (List.mem_singleton_self _),
          ofRequest.trans same.symm⟩
      · exact .inl (Table.mem_replace.mpr (.inr ⟨member, same⟩))
  | finished old execution finished receipt status now found foundExecution wasRunning ofRequest
      sameRequest terminal ofExecution sameStatus fresh =>
      have its := invariant.status_eq (Table.mem_of_lookup found).1
        (Table.mem_of_lookup foundExecution).1 ofRequest
      rw [wasRunning] at its
      exact .inl (other found rfl (by rw [its]; decide))

namespace AuthorizationsApproved

variable {db next : Database} {sha256 : String → String}

/-- A call of the change services that starts no execution of an authorized request. -/
theorem change {starts : Option String} (held : AuthorizationsApproved db)
    (invariant : LifecycleInvariant db.lifecycle)
    (step : LifecycleStep sha256 db.lifecycle next.lifecycle)
    (keeps : KeepsAuthorizations starts db next)
    (apart : ∀ requestId ∈ starts, ∀ row ∈ db.authorizationSnapshots, row.requestId ≠ requestId) :
    AuthorizationsApproved next where
  snapshots row member := by
    rw [keeps.snapshots] at member
    obtain ⟨request, requestMember, sameId, approved⟩ := held.snapshots row member
    rcases step.approved_kept invariant requestMember approved with kept | ⟨execution, isNew, same⟩
    · exact ⟨request, kept, sameId, approved⟩
    · rcases keeps.executions execution isNew with ⟨old, oldMember, again⟩ | started
      · have early : request.status.executed = false := by rw [approved]; rfl
        exact absurd (again.trans same) (invariant.unexecuted requestMember early old oldMember)
      · exact absurd (sameId.symm.trans same.symm) (apart _ started row member)
  grants := by
    rw [keeps.grants, keeps.snapshots]
    exact held.grants
  consumptions := by
    rw [keeps.consumptions, keeps.grants]
    exact held.consumptions
  outbox := by
    rw [keeps.outbox, keeps.grants]
    exact held.outbox

theorem congr (held : AuthorizationsApproved db)
    (requests : next.changeRequests = db.changeRequests)
    (snapshots : next.authorizationSnapshots = db.authorizationSnapshots)
    (grants : next.executionGrants = db.executionGrants)
    (consumptions : next.grantConsumptions = db.grantConsumptions)
    (outbox : next.dispatchOutbox = db.dispatchOutbox) : AuthorizationsApproved next where
  snapshots := by
    rw [snapshots]
    simpa only [Database.Approved, requests] using held.snapshots
  grants := by rw [grants, snapshots]; exact held.grants
  consumptions := by rw [consumptions, grants]; exact held.consumptions
  outbox := by rw [outbox, grants]; exact held.outbox

theorem insertSnapshot {row : AuthorizationSnapshotRow} (held : AuthorizationsApproved db)
    (approved : db.Approved row.requestId) :
    AuthorizationsApproved (db.setAuthorizationSnapshots (db.authorizationSnapshots ++ [row])) where
  snapshots other member := by
    rcases List.mem_append.mp member with old | new
    · exact held.snapshots other old
    · obtain rfl := List.mem_singleton.mp new
      exact approved
  grants other member := by
    obtain ⟨snapshot, snapshotMember, same⟩ := held.grants other member
    exact ⟨snapshot, List.mem_append_left _ snapshotMember, same⟩
  consumptions := held.consumptions
  outbox := held.outbox

theorem insertGrant {row : ExecutionGrantRow} (held : AuthorizationsApproved db)
    (bound : row.Bound db) :
    AuthorizationsApproved (db.setExecutionGrants (db.executionGrants ++ [row])) where
  snapshots := held.snapshots
  grants other member := by
    rcases List.mem_append.mp member with old | new
    · exact held.grants other old
    · obtain rfl := List.mem_singleton.mp new
      obtain ⟨snapshot, snapshotMember, -, -, same, -⟩ := bound
      exact ⟨snapshot, snapshotMember, same⟩
  consumptions other member := by
    obtain ⟨grant, grantMember, same⟩ := held.consumptions other member
    exact ⟨grant, List.mem_append_left _ grantMember, same⟩
  outbox other member := by
    obtain ⟨grant, grantMember, same⟩ := held.outbox other member
    exact ⟨grant, List.mem_append_left _ grantMember, same⟩

theorem insertConsumption {row : GrantConsumptionRow} (held : AuthorizationsApproved db)
    (bound : row.Bound db) :
    AuthorizationsApproved (db.setGrantConsumptions (db.grantConsumptions ++ [row])) where
  snapshots := held.snapshots
  grants := held.grants
  consumptions other member := by
    rcases List.mem_append.mp member with old | new
    · exact held.consumptions other old
    · obtain rfl := List.mem_singleton.mp new
      obtain ⟨grant, grantMember, same, -⟩ := bound
      exact ⟨grant, grantMember, same⟩
  outbox := held.outbox

theorem insertOutbox {row : DispatchOutboxRow} (held : AuthorizationsApproved db)
    (bound : row.Bound db) :
    AuthorizationsApproved (db.setDispatchOutbox (db.dispatchOutbox ++ [row])) where
  snapshots := held.snapshots
  grants := held.grants
  consumptions := held.consumptions
  outbox other member := by
    rcases List.mem_append.mp member with old | new
    · exact held.outbox other old
    · obtain rfl := List.mem_singleton.mp new
      obtain ⟨-, -, -, grant, grantMember, -, carried⟩ := bound
      exact ⟨grant, grantMember, carried.2.2.2.2.1⟩

theorem appendAudit {stamp : Stamp} {entry : AuditEntry} (held : AuthorizationsApproved db)
    (appended : db.appendAudit sha256 stamp entry = .ok next) : AuthorizationsApproved next := by
  obtain ⟨rfl, -⟩ := Database.appendAudit_eq_ok appended
  exact held.congr rfl rfl rfl rfl rfl

theorem persist {supplies : SnapshotSupplies} {snapshot stored : AuthorizationSnapshot}
    {idempotencyKey correlationId : String} (held : AuthorizationsApproved db)
    (returned : AuthorizationSnapshotStore.persist sha256 supplies snapshot idempotencyKey
      correlationId db = .ok (stored, next)) :
    AuthorizationsApproved next ∧ next.lifecycle = db.lifecycle := by
  simp only [AuthorizationSnapshotStore.persist, bind_eq_ok] at returned
  obtain ⟨key, -, correlation, -, returned⟩ := returned
  split at returned
  · simp only [bind_eq_ok, pure_eq_ok, Prod.mk.injEq] at returned
    obtain ⟨_, _, _, _, _, rfl⟩ := returned
    exact ⟨held, rfl⟩
  · simp only [bind_eq_ok, catching_eq_ok, pure_eq_ok, Prod.mk.injEq] at returned
    obtain ⟨_, isBound, _, inserted, audited, appended, -, rfl⟩ := returned
    simp only [AuthorizationSnapshotStore.requireRequestBinding, bind_eq_ok, orRaise_eq_ok,
      raiseIf_eq_ok, not_not] at isBound
    obtain ⟨request, found, _, approved, -⟩ := isBound
    obtain ⟨requestMember, sameId⟩ := Table.mem_of_lookup found
    obtain ⟨rfl, -⟩ := Database.insertAuthorizationSnapshot_eq_ok inserted
    refine ⟨(held.insertSnapshot ⟨request, requestMember, sameId, approved⟩).appendAudit appended,
      ?_⟩
    obtain ⟨rfl, -⟩ := Database.appendAudit_eq_ok appended
    rfl

theorem createSnapshot {creator : AuthoritativeSnapshotCreator sha256}
    {surroundings : SnapshotSurroundings} {actorId requestId idempotencyKey correlationId : String}
    {stored : AuthorizationSnapshot} (held : AuthorizationsApproved db)
    (returned : creator.createSnapshot surroundings actorId requestId idempotencyKey correlationId
      db = .ok (stored, next)) :
    AuthorizationsApproved next ∧ next.lifecycle = db.lifecycle := by
  obtain ⟨-, -, authorization, -, isStored⟩ := createSnapshot_eq_ok returned
  simp only [AuthoritativeSnapshotCreator.store, bind_eq_ok] at isStored
  obtain ⟨⟨persisted, between⟩, isPersisted, isStored⟩ := isStored
  obtain ⟨kept, same⟩ := held.persist isPersisted
  split at isStored
  · simp only [bind_eq_ok, pure_eq_ok, Prod.mk.injEq] at isStored
    obtain ⟨audited, appended, -, rfl⟩ := isStored
    refine ⟨kept.appendAudit appended, ?_⟩
    obtain ⟨rfl, -⟩ := Database.appendAudit_eq_ok appended
    exact same
  · cases isStored
    exact ⟨kept, same⟩

theorem issueAndStore {service : DurableGrantService} {surroundings : GrantSurroundings}
    {issued : Except Raised (Option ExecutionGrantV2)}
    {faults : Except Raised Unit × Except Raised Unit} {grant : ExecutionGrantV2}
    (held : AuthorizationsApproved db)
    (returned : service.issueAndStore sha256 surroundings issued faults db = .ok (grant, next)) :
    AuthorizationsApproved next ∧ next.lifecycle = db.lifecycle := by
  obtain ⟨row, stores⟩ := DurableGrantService.issueAndStore_eq_ok returned
  rw [stores.effect]
  exact ⟨held.insertGrant stores.bound, rfl⟩

theorem consume {service : DurableGrantService} {surroundings : GrantSurroundings}
    {consumptionId jti : String} {faults : Except Raised Unit × Except Raised Unit}
    {witness : GrantConsumptionWitness} (held : AuthorizationsApproved db)
    (returned : service.consume sha256 surroundings consumptionId jti faults db =
      .ok (witness, next)) :
    AuthorizationsApproved next ∧ next.lifecycle = db.lifecycle := by
  simp only [DurableGrantService.consume, bind_eq_ok, pure_eq_ok, Prod.mk.injEq] at returned
  obtain ⟨prepared, -, consumed, recorded, _, _, -, rfl⟩ := returned
  obtain ⟨rfl, -, bound⟩ := DurableGrantService.recordConsumption_eq_ok recorded
  exact ⟨held.insertConsumption bound, rfl⟩

theorem consumeAndEnqueue {service : DurableDispatchOutboxService}
    {surroundings : GrantSurroundings} {consumptionId outboxId jti : String}
    {faults : EnqueueFaults} {entry : DispatchOutboxEntry} (held : AuthorizationsApproved db)
    (returned : service.consumeAndEnqueue sha256 surroundings consumptionId outboxId jti faults db =
      .ok (entry, next)) :
    AuthorizationsApproved next ∧ next.lifecycle = db.lifecycle := by
  simp only [DurableDispatchOutboxService.consumeAndEnqueue, bind_eq_ok, catching_eq_ok, pure_eq_ok,
    Prod.mk.injEq] at returned
  obtain ⟨prepared, -, outbox, -, consumed, recorded, _, ⟨_, _, inserted⟩, _, _, -, rfl⟩ := returned
  obtain ⟨rfl, -, consumptionBound⟩ := DurableGrantService.recordConsumption_eq_ok recorded
  obtain ⟨rfl, -, outboxBound⟩ := Database.insertDispatchOutbox_eq_ok inserted
  exact ⟨(held.insertConsumption consumptionBound).insertOutbox outboxBound, rfl⟩

end AuthorizationsApproved

/-- What every call that leaves authorized requests alone keeps. -/
structure SpendingInvariant (world : ChangeWorld) : Prop where
  changes : ChangeInvariant world
  authorizations : AuthorizationsApproved world.db

namespace SpendingInvariant

variable {sha256 : String → String} {world : ChangeWorld}

/-- A call that leaves the change tables alone. -/
theorem of_lifecycle {next : Database} (held : SpendingInvariant world)
    (kept : AuthorizationsApproved next ∧ next.lifecycle = world.db.lifecycle) :
    SpendingInvariant ⟨next, world.pending ++ startedBy (.ok none)⟩ := by
  obtain ⟨authorizations, same⟩ := kept
  refine ⟨⟨same ▸ held.changes.tables, ?_⟩, authorizations⟩
  have executions : next.executions = world.db.executions :=
    congrArg LifecycleTables.executions same
  intro pending member
  rw [executions]
  exact held.changes.pending pending (by simpa [startedBy] using member)

theorem step (held : SpendingInvariant world) (call : SpendingCall sha256)
    (apart : call.LeavesAuthorized world) : SpendingInvariant (SpendingCall.step world call) := by
  cases returned : call.body world.pending world.db with
  | error error =>
      have same : SpendingCall.step world call = world := by
        rw [SpendingCall.step, Transaction.commit_of_error returned]
        simp [startedBy]
      exact same.symm ▸ held
  | ok outcome =>
      obtain ⟨reply, next⟩ := outcome
      have stepped := SpendingCall.step_of_ok returned
      rw [stepped]
      cases call with
      | change call ofService =>
          have same : world.step sha256 call = ⟨next, world.pending ++ startedBy (.ok reply)⟩ :=
            stepped
          have effect := (ChangeWorld.step_cases sha256 held.changes call).1
          have changes := held.changes.step sha256 call
          rw [same] at effect changes
          exact ⟨changes, held.authorizations.change held.changes.tables effect
            (KeepsAuthorizations.call ofService returned) apart⟩
      | snapshot creator surroundings actorId requestId idempotencyKey correlationId =>
          simp only [SpendingCall.body, bind_eq_ok, pure_eq_ok, Prod.mk.injEq] at returned
          obtain ⟨⟨_, _⟩, created, rfl, rfl⟩ := returned
          exact held.of_lifecycle (held.authorizations.createSnapshot created)
      | issueAndStore service surroundings issued faults =>
          simp only [SpendingCall.body, bind_eq_ok, pure_eq_ok, Prod.mk.injEq] at returned
          obtain ⟨⟨_, _⟩, stored, rfl, rfl⟩ := returned
          exact held.of_lifecycle (held.authorizations.issueAndStore stored)
      | consume service surroundings consumptionId jti faults =>
          simp only [SpendingCall.body, bind_eq_ok, pure_eq_ok, Prod.mk.injEq] at returned
          obtain ⟨⟨_, _⟩, consumed, rfl, rfl⟩ := returned
          exact held.of_lifecycle (held.authorizations.consume consumed)
      | consumeAndEnqueue service surroundings consumptionId outboxId jti faults =>
          simp only [SpendingCall.body, bind_eq_ok, pure_eq_ok, Prod.mk.injEq] at returned
          obtain ⟨⟨_, _⟩, enqueued, rfl, rfl⟩ := returned
          exact held.of_lifecycle (held.authorizations.consumeAndEnqueue enqueued)
      | elsewhere other =>
          cases returned
          exact held.of_lifecycle ⟨held.authorizations.congr rfl rfl rfl rfl rfl, rfl⟩

end SpendingInvariant

/-- A database in which every authorization leads back to an approved request, before any call. -/
structure SpendingStart where
  db : Database
  tables : LifecycleInvariant db.lifecycle
  authorizations : AuthorizationsApproved db

namespace SpendingStart

def world (start : SpendingStart) : ChangeWorld := ⟨start.db, []⟩

theorem invariant (start : SpendingStart) : SpendingInvariant start.world :=
  ⟨⟨start.tables, fun _ member => by cases member⟩, start.authorizations⟩

end SpendingStart

/-- A run in which no execution is started of a request that has a snapshot. -/
structure GuardedRun (sha256 : String → String) where
  start : SpendingStart
  calls : List (SpendingCall sha256)
  apart : Transaction.Along SpendingCall.step
    (fun world call => call.LeavesAuthorized world) start.world calls

def GuardedRun.world {sha256 : String → String} (run : GuardedRun sha256) : ChangeWorld :=
  Transaction.run SpendingCall.step run.start.world run.calls

theorem SpendingInvariant.along {sha256 : String → String} {world : ChangeWorld}
    (held : SpendingInvariant world) {calls : List (SpendingCall sha256)}
    (apart : Transaction.Along SpendingCall.step (fun world call => call.LeavesAuthorized world)
      world calls) :
    Transaction.Along SpendingCall.step
        (fun world call => SpendsApproved world.db (SpendingCall.step world call).db) world calls ∧
      SpendingInvariant (Transaction.run SpendingCall.step world calls) := by
  induction calls generalizing world with
  | nil => exact ⟨trivial, held⟩
  | cons call calls induction =>
      obtain ⟨first, later⟩ := apart
      have next := held.step call first
      obtain ⟨along, last⟩ := induction next later
      exact ⟨⟨next.authorizations.spendsApproved, along⟩, last⟩

theorem SpendingInvariant.executed_apart {world : ChangeWorld} (held : SpendingInvariant world)
    {execution : ExecutionRow} (member : execution ∈ world.db.executions) :
    ¬world.db.Approved execution.requestId := by
  rintro ⟨request, requestMember, same, approved⟩
  have early : request.status.executed = false := by rw [approved]; rfl
  exact held.changes.tables.unexecuted requestMember early execution member same.symm

/-- Where no execution is started of a request that has a snapshot, every snapshot, grant,
consumption and outbox row commits while its request is approved, and a request that was executed
has none of them. -/
theorem approvals_spent_once (sha256 : String → String) (run : GuardedRun sha256) :
    Transaction.Along SpendingCall.step
        (fun world call => SpendsApproved world.db (SpendingCall.step world call).db)
        run.start.world run.calls ∧
      ∀ execution ∈ run.world.db.executions,
        (∀ row ∈ run.world.db.authorizationSnapshots, row.requestId ≠ execution.requestId) ∧
        (∀ row ∈ run.world.db.executionGrants, row.requestId ≠ execution.requestId) ∧
        ∀ row ∈ run.world.db.dispatchOutbox, row.requestId ≠ execution.requestId := by
  obtain ⟨along, held⟩ := run.start.invariant.along run.apart
  refine ⟨along, fun execution member => ?_⟩
  have apart := held.executed_apart member
  refine ⟨fun row rowMember same => apart ?_, fun row rowMember same => apart ?_,
    fun row rowMember same => apart ?_⟩
  · exact same ▸ held.authorizations.snapshots row rowMember
  · exact same ▸ held.authorizations.grants_approved rowMember
  · obtain ⟨grant, grantMember, ofGrant⟩ := held.authorizations.outbox row rowMember
    exact same ▸ ofGrant ▸ held.authorizations.grants_approved grantMember

namespace SpentTwice

open Calendar

variable (sha256 : Sha256)

def request : ChangeRequestRow where
  id := "req_1"
  workspaceId := "ws_1"
  title := "create a branch"
  description := "create a branch"
  risk := "low"
  environment := "staging"
  adapter := "github-create-ref"
  payload := .object []
  status := .approved
  requestedBy := "usr_2"
  createdAt := sampleTime.isoformat
  updatedAt := sampleTime.isoformat
  reviewContentSha256 := some (repeatedDigit '1')

def snapshot : AuthorizationSnapshotRow where
  id := "snap_1"
  executionId := "exec_1"
  requestId := "req_1"
  actorId := "usr_1"
  workspaceId := "ws_1"
  environment := "staging"
  reviewContentSha256 := repeatedDigit '1'
  idempotencyKey := "key_1"
  idempotencyBindingDigest := repeatedDigit '2'
  snapshotDigest := repeatedDigit '3'
  snapshot := .object []
  executionTarget := .object []
  approvalEvidence := .object []
  createdAt := sampleTime.isoformat

/-- The grant for the snapshot, without its digest. -/
def grantDraft : ExecutionGrantV2 where
  grantId := "grant_1"
  jti := "jti_1"
  executionId := "exec_1"
  requestId := "req_1"
  authorizationSnapshotDigest := repeatedDigit '3'
  snapshotAuthorityWitnessSetDigest := repeatedDigit '0'
  snapshotAuthorityEventHash := repeatedDigit '0'
  parentScopeDigest := repeatedDigit '0'
  authorityConstraintDigest := repeatedDigit '0'
  monotonicAuthorityDecisionDigest := repeatedDigit '0'
  actorId := "usr_1"
  workspaceId := "ws_1"
  environment := "staging"
  capability := "github.create_ref"
  capabilityDefinitionIdentity := repeatedDigit '0'
  targetKind := "github-ref"
  targetDigest := repeatedDigit '0'
  payloadDigest := repeatedDigit '0'
  policyVersion := "policy/v1"
  policyIdentity := repeatedDigit '0'
  approvalSetDigest := repeatedDigit '0'
  requiredPermission := requiredExecutionPermission
  preconditionRequirementDigest := repeatedDigit '0'
  preconditionExpectationDigest := repeatedDigit '0'
  preconditionObservationDigest := repeatedDigit '0'
  preconditionWitnessDigest := repeatedDigit '0'
  preconditionEnforcementClass := "READ_THEN_COMPARE"
  preconditionCheckedAt := sampleTime.isoformat
  executionBindingDigest := repeatedDigit '0'
  executionCapsuleDigest := repeatedDigit '0'
  runnerClass := "isolated-write"
  executionBindingAuthorityRevision := "r1"
  issuedAt := sampleTime.isoformat
  expiresAt := twoMinutesLater.isoformat
  revocationEpoch := 0
  useSemantics := oneTimeUse
  issuerIdentity := "issuer"
  issuerRevision := "r1"
  grantDigest := ""

def grant : ExecutionGrantV2 := sha256.finish ExecutionGrantV2.contract grantDraft

theorem digest_repeatedDigit {digit : Char} (hexadecimal : digit ∈ "0123456789abcdef".toList) :
    ValidText (repeatedDigit digit) ∧ IsDigest (repeatedDigit digit) :=
  ⟨validText_of_isDigest (isDigest_repeatedDigit hexadecimal), isDigest_repeatedDigit hexadecimal⟩

theorem grant_created : ExecutionGrantV2.contract.create sha256.hexdigest grantDraft =
    .ok (grant sha256) := by
  have zeros := digest_repeatedDigit (by decide : '0' ∈ "0123456789abcdef".toList)
  have threes := digest_repeatedDigit (by decide : '3' ∈ "0123456789abcdef".toList)
  refine Contract.create_of_holds ExecutionGrantV2.lawful _ (grant sha256).grantDigest rfl
    (fun self reads => ?_) ?_
  · simp only [ExecutionGrantV2.contract, Contract.fieldsWith, Contract.claimFields,
      ExecutionGrantV2.claims, grantDraft, List.cons_append, List.nil_append,
      List.forall_mem_cons] at reads
    simp only [ExecutionGrantV2.contract, requireTexts, requireDigests, List.map_cons,
      List.map_nil, List.cons_append, List.nil_append, List.forall_mem_cons, AttributeCheck.Holds,
      Attributes.text, Attributes.int, Json.text?, reads, Option.getD_some, true_and]
    exact ⟨(by decide : ValidText "grant_1"), (by decide : ValidText "jti_1"),
      (by decide : ValidText "exec_1"), (by decide : ValidText "req_1"),
      (by decide : ValidText "usr_1"), (by decide : ValidText "ws_1"),
      (by decide : ValidText "staging"), (by decide : ValidText "github.create_ref"),
      (by decide : ValidText "github-ref"), (by decide : ValidText "policy/v1"),
      (by decide : ValidText "isolated-write"), (by decide : ValidText "r1"),
      (by decide : ValidText "issuer"), (by decide : ValidText "r1"), threes, zeros, zeros, zeros,
      zeros, zeros, zeros, zeros, zeros, zeros, zeros, zeros, zeros, zeros, zeros, zeros, zeros,
      sha256.passes _, List.mem_cons_self, le_rfl, ⟨validText_sampleTime, sampleTime, rfl⟩,
      ⟨validText_sampleTime, sampleTime, rfl⟩, ⟨validText_twoMinutesLater, twoMinutesLater, rfl⟩,
      List.forall_mem_nil _⟩
  · simp only [ExecutionGrantV2.contract, bind_eq_ok, raiseIf_eq_ok]
    exact ⟨sampleTime, requireTimestamp_eq_ok.mpr ⟨rfl, validText_sampleTime⟩, sampleTime,
      requireTimestamp_eq_ok.mpr ⟨rfl, validText_sampleTime⟩, twoMinutesLater,
      requireTimestamp_eq_ok.mpr ⟨rfl, validText_twoMinutesLater⟩, (), lt_irrefl _, (), by decide,
      (), by decide, by decide⟩

/-- The service, on a clock that may serve staging. -/
def service : DurableGrantService where
  trustedClock := ⟨"clock", "r1", ["staging"]⟩
  authorityRevision := "r1"
  revision := by decide

def conformance (grant : ExecutionGrantV2) : ExecutionConformanceWitness where
  grantDigest := grant.grantDigest
  executionBindingDigest := grant.executionBindingDigest
  executionCapsuleDigest := grant.executionCapsuleDigest
  capabilityDefinitionIdentity := grant.capabilityDefinitionIdentity
  capabilityActivationDigest := repeatedDigit '0'
  capsuleActivationDigest := repeatedDigit '0'
  handlerConformanceEvidenceDigest := repeatedDigit '0'
  targetKind := grant.targetKind
  runnerClass := grant.runnerClass
  handlerId := "github-create-ref"
  handlerDigest := repeatedDigit '0'
  credentialClass := "write"
  preconditionEnforcementClass := grant.preconditionEnforcementClass
  verificationContractIdentity := repeatedDigit '0'
  atomicProviderConditionContractIdentity := none
  conformanceAuthorityRevision := "r1"
  witnessDigest := repeatedDigit '4'

/-- The authorities: the epoch is that of the grant, and the runtime conforms. -/
def surroundings : GrantSurroundings where
  reading := .aware minuteLater
  currentEpoch _ _ _ _ := .ok (.int 0)
  conformance grant := .ok (some (conformance grant))

def clockWitness : ClockWitness :=
  let draft : ClockWitness := ⟨"clock", "r1", "staging", minuteLater.isoformat, ""⟩
  { draft with witnessDigest := digestOf sha256.hexdigest draft.claimsWithoutDigest }

theorem clock_witnessed (grant : ExecutionGrantV2) (staging : grant.environment = "staging") :
    service.trustedClockWitness sha256.hexdigest surroundings grant =
      .ok (clockWitness sha256) := by
  have observed : Instant.ofIsoformat? minuteLater.isoformat = some minuteLater :=
    Instant.ofIsoformat?_eq_some.mpr rfl
  simp only [DurableGrantService.trustedClockWitness, TrustedClockAuthority.witness,
    ClockWitness.create, ClockWitness.postInit, service, surroundings, staging, bind_eq_ok,
    catching_eq_ok, raiseIf_eq_ok, requireText_eq_ok, orRaise_eq_ok, not_not, pure_eq_ok]
  exact ⟨clockWitness sha256, ⟨(), by decide, (), by decide, (), ⟨"clock", ⟨rfl, by decide⟩, "r1",
    ⟨rfl, by decide⟩, (), by decide, minuteLater, observed, (), sha256.isDigest _, rfl⟩, rfl⟩, (),
    rfl, rfl⟩

/-- The database: the request is approved, and its grant is stored. -/
def db : Database :=
  ((((((Database.empty.setUsers [⟨"usr_1", "operator", "operator", true⟩,
      ⟨"usr_2", "developer", "developer", true⟩]).setWorkspaces
    [⟨"ws_1", "workspace", "staging", sampleTime.isoformat⟩]).setWorkspaceMemberships
    [⟨"ws_1", "usr_1", "member", "usr_2", sampleTime.isoformat⟩]).setChangeRequests
    [request]).setAuthorizationSnapshots [snapshot]).setExecutionGrants
    [(grant sha256).row (conformance (grant sha256)) (clockWitness sha256) 0 "r1"])

theorem lifecycle_invariant : LifecycleInvariant (db sha256).lifecycle where
  requestKeys := List.nodup_singleton _
  executionKeys := Table.keyed_nil
  onePerRequest := Table.keyed_nil
  onePerExecution := Table.keyed_nil
  requested _ member := by cases member
  executed other member executed := by
    obtain rfl := List.mem_singleton.mp member
    cases executed
  receipted _ member := by cases member
  settled _ member := by cases member

theorem authorizations_approved : AuthorizationsApproved (db sha256) where
  snapshots row member := by
    obtain rfl := List.mem_singleton.mp member
    exact ⟨request, List.mem_singleton_self _, rfl, rfl⟩
  grants row member := by
    obtain rfl := List.mem_singleton.mp member
    exact ⟨snapshot, List.mem_singleton_self _, rfl⟩
  consumptions _ member := by cases member
  outbox _ member := by cases member

def start : SpendingStart := ⟨db sha256, lifecycle_invariant sha256, authorizations_approved sha256⟩

/-- The other service, whose leases end at one time. -/
def executionService : ExecutionService where
  productionEffectsEnabled := false
  executionLeaseSeconds := 60
  leaseDeadline _ _ := .ok twoMinutesLater.isoformat
  leaseExpired _ _ := .ok false

def supplies : CallSupplies where
  newId := "exe_1"
  now := minuteLater.isoformat
  receipt := ⟨"rcp_1", minuteLater.isoformat⟩
  audit := ⟨"evt_1", minuteLater.isoformat⟩
  fault := .ok ()

def executionRow : ExecutionRow :=
  ExecutionService.runningRow supplies request "req_1" none twoMinutesLater.isoformat

def inserted : Database := (db sha256).setExecutions [executionRow]

/-- The database with the execution, where the request is running. -/
def running : Database :=
  (inserted sha256).setChangeRequests
    [ChangeRequestService.setStatus .running supplies.now request]

/-- The database after the execution has started. -/
def executing : Database :=
  (running sha256).setAuditEvents [(running sha256).auditRow sha256.hexdigest supplies.audit
    { actorId := "usr_1"
      action := "execution.start"
      targetType := "execution"
      targetId := "exe_1"
      payload := .object [("request_id", .str "req_1"), ("adapter", .str "github-create-ref")] }]

theorem execution_inserted : (db sha256).insertExecution executionRow = .ok (inserted sha256) := by
  have guard : executionRow.InsertGuard (db sha256) := by
    refine ⟨(fun _ member => by cases member), le_rfl, ⟨request, List.mem_singleton_self _, rfl⟩,
      ?_⟩
    rintro ⟨_, requestMember, -, _, workspaceMember, -, unbound⟩
    obtain rfl := List.mem_singleton.mp requestMember
    obtain rfl := List.mem_singleton.mp workspaceMember
    rcases unbound with unknown | different
    · exact unknown (by decide : "staging" ∈ validEnvironments)
    · exact different rfl
  simp only [Database.insertExecution, bind_eq_ok, raiseIf_eq_ok, not_not, pure_eq_ok]
  exact ⟨(), guard, rfl⟩

theorem request_updated : (inserted sha256).updateChangeRequest "req_1"
    (ChangeRequestService.setStatus .running supplies.now) = .ok (running sha256) := by
  have found : Table.lookup (·.id) (inserted sha256).changeRequests "req_1" = some request := rfl
  have guard : ChangeRequestRow.UpdateGuard request
      (ChangeRequestService.setStatus .running supplies.now request) := by
    refine ⟨fun digest isDigest => ?_, fun changed => absurd rfl changed, fun review => ?_⟩
    · obtain rfl := Option.some.inj isDigest
      exact isDigest_repeatedDigit (by decide)
    · cases review.1
  rw [Database.updateChangeRequest, found]
  simp only [bind_eq_ok, raiseIf_eq_ok, not_not, pure_eq_ok]
  exact ⟨(), guard, rfl⟩

theorem started : executionService.start sha256.hexdigest supplies "usr_1" "req_1" none
    (db sha256) = .ok (⟨"exe_1", "req_1", "usr_1", 1, request⟩, executing sha256) := by
  simp only [ExecutionService.start, bind_eq_ok, orRaise_eq_ok, raiseIf_eq_ok, not_not, pure_eq_ok]
  exact ⟨(), fun never => Bool.noConfusion never, (request, "staging"), rfl, (), rfl, (), rfl, (),
    by decide, (), by decide, twoMinutesLater.isoformat, rfl, _, execution_inserted sha256, _,
    request_updated sha256, _, Database.appendAudit_ok (fun _ member => by cases member), (), rfl,
    rfl⟩

def decision : PermissionDecision :=
  let draft : PermissionDecision := ⟨"usr_1", "ws_1", "staging", "execution.run", true,
    "DATABASE_ROLE_PERMISSION_GRANTED", DurableGrantService.livePermissionAuthorityRevision,
    databasePermissionScopeModel, ""⟩
  { draft with decisionDigest := digestOf sha256.hexdigest draft.claimsWithoutDigest }

theorem decision_created : PermissionDecision.create sha256.hexdigest
    (DurableGrantService.permissionQuery (grant sha256)) true "DATABASE_ROLE_PERMISSION_GRANTED"
    DurableGrantService.livePermissionAuthorityRevision databasePermissionScopeModel =
      .ok (decision sha256) := by
  simp only [PermissionDecision.create, PermissionDecision.postInit, bind_eq_ok,
    requireText_eq_ok, raiseIf_eq_ok, not_not, pure_eq_ok]
  exact ⟨(), ⟨"usr_1", ⟨rfl, by decide⟩, "ws_1", ⟨rfl, by decide⟩, "execution.run",
    ⟨rfl, by decide⟩, "DATABASE_ROLE_PERMISSION_GRANTED", ⟨rfl, by decide⟩,
    DurableGrantService.livePermissionAuthorityRevision, ⟨rfl, by decide⟩,
    databasePermissionScopeModel, ⟨rfl, by decide⟩, (),
    (by decide : "staging" ∈ validEnvironments), (), sha256.isDigest _, rfl⟩, rfl⟩

theorem permitted : DurableGrantService.assertLivePermission sha256.hexdigest (executing sha256)
    (grant sha256) = .ok () := by
  have decided : (executing sha256).decideDatabasePermission sha256.hexdigest
      (DurableGrantService.permissionQuery (grant sha256))
      DurableGrantService.livePermissionAuthorityRevision = .ok (decision sha256) := by
    simp only [Database.decideDatabasePermission, bind_eq_ok, requireText_eq_ok]
    exact ⟨_, ⟨rfl, by decide⟩, decision_created sha256⟩
  simp only [DurableGrantService.assertLivePermission, PermissionQuery.postInit, bind_eq_ok,
    raiseIf_eq_ok, requireText_eq_ok, catching_eq_ok, not_not]
  exact ⟨(), rfl, (), ⟨"usr_1", ⟨rfl, by decide⟩, "ws_1", ⟨rfl, by decide⟩, "execution.run",
    ⟨rfl, by decide⟩, (by decide : "staging" ∈ validEnvironments)⟩, _, decided, (), rfl,
    fun never => Bool.noConfusion never⟩

theorem live_authority : DurableGrantService.assertLiveAuthority sha256.hexdigest surroundings
    (executing sha256) (grant sha256) (clockWitness sha256) = .ok 0 := by
  simp only [DurableGrantService.assertLiveAuthority, bind_eq_ok, requireTimestamp_eq_ok,
    raiseIf_eq_ok, catching_eq_ok, pure_eq_ok]
  exact ⟨minuteLater, ⟨rfl, validText_minuteLater⟩, sampleTime, ⟨rfl, validText_sampleTime⟩,
    twoMinutesLater, ⟨rfl, validText_twoMinutesLater⟩, (), by decide, (), by decide, (),
    fun never => Bool.noConfusion never, (), permitted sha256, .int 0, rfl, 0, rfl, (),
    fun changed => changed rfl, rfl⟩

def witness : GrantConsumptionWitness :=
  sha256.finish GrantConsumptionWitness.contract (.draft "cons_1" (grant sha256)
    (conformance (grant sha256)) (clockWitness sha256) 0 "r1")

theorem witness_created : GrantConsumptionWitness.create sha256.hexdigest "cons_1" (grant sha256)
    (conformance (grant sha256)) (clockWitness sha256) 0 "r1" = .ok (witness sha256) := by
  have zeros := digest_repeatedDigit (by decide : '0' ∈ "0123456789abcdef".toList)
  have threes := digest_repeatedDigit (by decide : '3' ∈ "0123456789abcdef".toList)
  have fours := digest_repeatedDigit (by decide : '4' ∈ "0123456789abcdef".toList)
  refine Contract.create_of_holds GrantConsumptionWitness.lawful _ (witness sha256).witnessDigest
    rfl (fun self reads => ?_) rfl
  simp only [GrantConsumptionWitness.contract, Contract.fieldsWith, Contract.claimFields,
    GrantConsumptionWitness.claims, GrantConsumptionWitness.draft, List.cons_append,
    List.nil_append, List.forall_mem_cons] at reads
  simp only [GrantConsumptionWitness.contract, requireTexts, requireDigests, List.map_cons,
    List.map_nil, List.cons_append, List.nil_append, List.forall_mem_cons, AttributeCheck.Holds,
    Attributes.text, Attributes.int, Json.text?, reads, Option.getD_some, true_and]
  exact ⟨(by decide : ValidText "cons_1"), (by decide : ValidText "jti_1"),
    (by decide : ValidText "grant_1"), (by decide : ValidText "exec_1"),
    (by decide : ValidText "isolated-write"), (by decide : ValidText sqliteSerializationContract),
    (by decide : ValidText "r1"), sha256.passes _, threes, zeros, fours, sha256.passes _,
    sha256.passes _, le_rfl, ⟨validText_minuteLater, minuteLater, rfl⟩, List.forall_mem_nil _⟩

def prepared : DurableGrantService.Prepared :=
  ⟨grant sha256, clockWitness sha256, 0, conformance (grant sha256), witness sha256⟩

theorem consumption_prepared : service.prepare sha256.hexdigest surroundings "cons_1" "jti_1"
    (executing sha256) = .ok (prepared sha256) := by
  have decoded : DurableGrantService.decodeStoredGrant sha256.hexdigest
      ((grant sha256).row (conformance (grant sha256)) (clockWitness sha256) 0 "r1") =
      .ok (grant sha256) := by
    simp only [DurableGrantService.decodeStoredGrant, bind_eq_ok, catching_eq_ok, raiseIf_eq_ok,
      not_not, pure_eq_ok]
    exact ⟨_, Contract.fromDict_of_create ExecutionGrantV2.lawful (grant_created sha256), (), rfl,
      (), rfl, rfl⟩
  have conforms : DurableGrantService.freshConformance surroundings (grant sha256) =
      .ok (conformance (grant sha256)) := by
    simp only [DurableGrantService.freshConformance, bind_eq_ok, catching_eq_ok, orRaise_eq_ok,
      raiseIf_eq_ok, not_not, pure_eq_ok]
    exact ⟨_, rfl, _, rfl, (), rfl, rfl⟩
  simp only [DurableGrantService.prepare, bind_eq_ok, requireText_eq_ok, raiseIf_eq_ok,
    orRaise_eq_ok, pure_eq_ok]
  exact ⟨"jti_1", ⟨rfl, by decide⟩, (), fun never => Bool.noConfusion never, _, rfl, _, decoded, _,
    clock_witnessed sha256 _ rfl, 0, live_authority sha256, _, conforms, _, witness_created sha256,
    rfl⟩

def entry : DispatchOutboxEntry :=
  sha256.finish DispatchOutboxEntry.contract (.draft "out_1" (grant sha256) (witness sha256) "r1")

theorem entry_created : DispatchOutboxEntry.create sha256.hexdigest "out_1" (grant sha256)
    (witness sha256) "r1" = .ok (entry sha256) := by
  have zeros := digest_repeatedDigit (by decide : '0' ∈ "0123456789abcdef".toList)
  have threes := digest_repeatedDigit (by decide : '3' ∈ "0123456789abcdef".toList)
  simp only [DispatchOutboxEntry.create, bind_eq_ok, raiseIf_eq_ok, not_not]
  refine ⟨(), rfl, Contract.create_of_holds DispatchOutboxEntry.lawful _ (entry sha256).entryDigest
    rfl (fun self reads => ?_) ?_⟩
  · simp only [DispatchOutboxEntry.contract, Contract.fieldsWith, Contract.claimFields,
      DispatchOutboxEntry.claims, DispatchOutboxEntry.draft, List.cons_append, List.nil_append,
      List.forall_mem_cons] at reads
    simp only [DispatchOutboxEntry.contract, requireTexts, requireDigests, List.map_cons,
      List.map_nil, List.cons_append, List.nil_append, List.forall_mem_cons, AttributeCheck.Holds,
      Attributes.text, Json.text?, reads, Option.getD_some, true_and]
    exact ⟨(by decide : ValidText "out_1"), (by decide : ValidText "cons_1"),
      (by decide : ValidText "jti_1"), (by decide : ValidText "grant_1"),
      (by decide : ValidText "exec_1"), (by decide : ValidText "req_1"),
      (by decide : ValidText "usr_1"), (by decide : ValidText "ws_1"),
      (by decide : ValidText "staging"), (by decide : ValidText "github.create_ref"),
      (by decide : ValidText "github-ref"), (by decide : ValidText requiredExecutionPermission),
      (by decide : ValidText "isolated-write"), (by decide : ValidText "READ_THEN_COMPARE"),
      (by decide : ValidText oneTimeUse), (by decide : ValidText "r1"), sha256.passes _,
      sha256.passes _, zeros, threes, zeros, zeros, zeros, zeros, sha256.passes _,
      validText_minuteLater, List.forall_mem_nil _⟩
  · simp only [DispatchOutboxEntry.contract, dispatchConditions, bind_eq_ok, requireTimestamp_eq_ok,
      raiseIf_eq_ok, not_not]
    exact ⟨minuteLater, ⟨rfl, validText_minuteLater⟩, (), rfl, (), rfl, List.mem_cons_self⟩

def dispatched : Database :=
  ((executing sha256).setGrantConsumptions [(prepared sha256).row]).setDispatchOutbox
    [(entry sha256).row]

theorem consumption_recorded : DurableGrantService.recordConsumption (.ok ()) (prepared sha256)
    (executing sha256) = .ok ((executing sha256).setGrantConsumptions [(prepared sha256).row]) := by
  have digest {digit : Char} (hexadecimal : digit ∈ "0123456789abcdef".toList) :
      IsDigest (repeatedDigit digit) := isDigest_repeatedDigit hexadecimal
  have checks : (prepared sha256).row.Checks :=
    ⟨sha256.isDigest _, digest (by decide : '3' ∈ _), digest (by decide : '0' ∈ _),
      (by decide : NonEmpty "isolated-write"), digest (by decide : '4' ∈ _), jsonColumn_object _ _,
      sha256.isDigest _, jsonColumn_object _ _, le_rfl, rfl, (by decide : NonEmpty "r1"),
      sha256.isDigest _, jsonColumn_object _ _⟩
  have bound : (prepared sha256).row.Bound (executing sha256) :=
    ⟨_, List.mem_singleton_self _, rfl, rfl, rfl, rfl, rfl⟩
  simp only [DurableGrantService.recordConsumption, catching_eq_ok, bind_eq_ok,
    Database.insertConsumption, raiseIf_eq_ok, not_not, pure_eq_ok]
  exact ⟨(), trivial, (), (by decide : ¬maxInteger < 0), (), checks, (),
    (fun _ member => by cases member), (), bound, rfl⟩

theorem entry_inserted : ((executing sha256).setGrantConsumptions
    [(prepared sha256).row]).insertDispatchOutbox (entry sha256).row = .ok (dispatched sha256) := by
  have digest {digit : Char} (hexadecimal : digit ∈ "0123456789abcdef".toList) :
      IsDigest (repeatedDigit digit) := isDigest_repeatedDigit hexadecimal
  have zeros := digest (by decide : '0' ∈ _)
  have checks : (entry sha256).row.Checks :=
    ⟨sha256.isDigest _, sha256.isDigest _, (by decide : "staging" ∈ validEnvironments),
      (by decide : NonEmpty "github.create_ref"), zeros, (by decide : NonEmpty "github-ref"), zeros,
      zeros, rfl, zeros, zeros, (by decide : NonEmpty "isolated-write"), List.mem_cons_self, rfl,
      (by decide : NonEmpty "r1"), sha256.isDigest _, jsonColumn_object _ _⟩
  have bound : (entry sha256).row.Bound ((executing sha256).setGrantConsumptions
      [(prepared sha256).row]) :=
    ⟨_, List.mem_singleton_self _, ⟨rfl, rfl, rfl, rfl, rfl, rfl, rfl, rfl, rfl⟩, _,
      List.mem_singleton_self _, rfl, rfl, rfl, rfl, rfl, rfl, rfl, rfl, rfl, rfl⟩
  have references : (entry sha256).row.References ((executing sha256).setGrantConsumptions
      [(prepared sha256).row]) :=
    ⟨⟨_, List.mem_singleton_self _, rfl⟩, ⟨_, List.mem_cons_self, rfl⟩,
      ⟨_, List.mem_singleton_self _, rfl⟩, _, List.mem_singleton_self _, rfl⟩
  simp only [Database.insertDispatchOutbox, bind_eq_ok, raiseIf_eq_ok, not_not, pure_eq_ok]
  exact ⟨(), checks, (), (fun _ member => by cases member), (), bound, (), references, rfl⟩

def outboxService : DurableDispatchOutboxService := ⟨service, "r1", by decide⟩

theorem enqueued : outboxService.consumeAndEnqueue sha256.hexdigest surroundings "cons_1" "out_1"
    "jti_1" ⟨.ok (), .ok (), .ok ()⟩ (executing sha256) =
      .ok (entry sha256, dispatched sha256) := by
  simp only [DurableDispatchOutboxService.consumeAndEnqueue, bind_eq_ok, catching_eq_ok, pure_eq_ok]
  exact ⟨_, consumption_prepared sha256, _, entry_created sha256, _, consumption_recorded sha256, _,
    ⟨(), trivial, entry_inserted sha256⟩, (), trivial, rfl⟩

def execution : SpendingCall sha256.hexdigest :=
  .change (.execute executionService supplies "usr_1" "req_1" none) rfl

def dispatch : SpendingCall sha256.hexdigest :=
  .consumeAndEnqueue outboxService surroundings "cons_1" "out_1" "jti_1"
    ⟨.ok (), .ok (), .ok ()⟩

theorem step_execution : ∃ pending, (execution sha256).step (start sha256).world =
    ⟨executing sha256, pending⟩ := by
  have executed : (execution sha256).body [] (db sha256) =
      .ok (some ⟨"exe_1", "req_1", "usr_1", 1, request⟩, executing sha256) := by
    simp only [execution, SpendingCall.body, ChangeCall.body, ExecutionService.execute, bind_eq_ok,
      pure_eq_ok]
    exact ⟨_, ⟨none, rfl, by simp only [bind_eq_ok, pure_eq_ok]; exact ⟨_, started sha256, rfl⟩⟩,
      rfl⟩
  exact ⟨_, SpendingCall.step_of_ok executed⟩

theorem step_dispatch (pending : List PendingExecution) :
    ∃ waiting, (dispatch sha256).step ⟨executing sha256, pending⟩ =
      ⟨dispatched sha256, waiting⟩ := by
  have enqueued : (dispatch sha256).body pending (executing sha256) =
      .ok (none, dispatched sha256) := by
    rw [dispatch, SpendingCall.body, enqueued, ok_bind]
    rfl
  exact ⟨_, SpendingCall.step_of_ok enqueued⟩

theorem unapproved : ¬(dispatched sha256).Approved "req_1" := by
  rintro ⟨other, member, -, approved⟩
  obtain rfl := List.mem_singleton.mp member
  cases approved

end SpentTwice

/-- Whatever the digest function, a request that is being executed is dispatched as well: its
stored grant is consumed while it is no longer approved. -/
theorem approval_spent_twice : ¬∃ sha256 : Sha256, ∀ (start : SpendingStart)
    (calls : List (SpendingCall sha256.hexdigest)),
    Transaction.Along SpendingCall.step
      (fun world call => SpendsApproved world.db (call.step world).db) start.world calls := by
  rintro ⟨sha256, safe⟩
  obtain ⟨-, dispatches, -⟩ := safe (SpentTwice.start sha256)
    [SpentTwice.execution sha256, SpentTwice.dispatch sha256]
  obtain ⟨pending, executing⟩ := SpentTwice.step_execution sha256
  obtain ⟨_, dispatched⟩ := SpentTwice.step_dispatch sha256 pending
  rw [executing, dispatched] at dispatches
  have new : (SpentTwice.entry sha256).row ∉ (SpentTwice.executing sha256).dispatchOutbox :=
    fun member => by cases member
  exact SpentTwice.unapproved sha256
    (dispatches.outbox _ (List.mem_singleton_self _) new)

end VoodooOne
