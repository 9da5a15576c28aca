import VoodooOne.Change.Execution

/-!
# Runs of the change services

A run is any list of calls, each in its own transaction.  A started execution leaves a pending
outcome, which may arrive at any later point of the run.
-/

namespace VoodooOne

def ExecutionStatus.requestStatus : ExecutionStatus → RequestStatus
  | .running => .running
  | .succeeded => .completed
  | .failed => .failed
  | .interrupted => .failed

def RequestStatus.executed : RequestStatus → Bool
  | .running => true
  | .completed => true
  | .failed => true
  | _ => false

theorem ExecutionStatus.executed_requestStatus (status : ExecutionStatus) :
    status.requestStatus.executed = true := by
  cases status <;> rfl

/-- Requests, executions and receipts are in step. -/
structure LifecycleInvariant (tables : LifecycleTables) : Prop where
  requestKeys : Table.Keyed (·.id) tables.requests
  executionKeys : Table.Keyed (·.id) tables.executions
  onePerRequest : Table.Keyed (·.requestId) tables.executions
  onePerExecution : Table.Keyed (·.executionId) tables.receipts
  /-- The request of an execution has the status that the execution gives it. -/
  requested : ∀ execution ∈ tables.executions, ∃ request ∈ tables.requests,
    request.id = execution.requestId ∧ request.status = execution.status.requestStatus
  /-- A request with such a status has an execution. -/
  executed : ∀ request ∈ tables.requests, request.status.executed = true →
    ∃ execution ∈ tables.executions, execution.requestId = request.id
  /-- A terminal execution has a receipt, with its status. -/
  receipted : ∀ execution ∈ tables.executions, execution.status ≠ .running →
    ∃ receipt ∈ tables.receipts, receipt.executionId = execution.id ∧
      receipt.payload.get "status" = .str execution.status.word
  /-- A receipt is of a terminal execution. -/
  settled : ∀ receipt ∈ tables.receipts, ∃ execution ∈ tables.executions,
    execution.id = receipt.executionId ∧ execution.status ≠ .running

namespace LifecycleInvariant

variable {sha256 : String → String} {tables next : LifecycleTables}

theorem empty (approvals : List ApprovalRow) : LifecycleInvariant ⟨[], approvals, [], []⟩ where
  requestKeys := Table.keyed_nil
  executionKeys := Table.keyed_nil
  onePerRequest := Table.keyed_nil
  onePerExecution := Table.keyed_nil
  requested _ member := by cases member
  executed _ member := by cases member
  receipted _ member := by cases member
  settled _ member := by cases member

variable {request : ChangeRequestRow}

theorem status_eq (invariant : LifecycleInvariant tables) {execution : ExecutionRow}
    (member : request ∈ tables.requests) (executionMember : execution ∈ tables.executions)
    (same : execution.requestId = request.id) :
    request.status = execution.status.requestStatus := by
  obtain ⟨other, otherMember, identity, status⟩ := invariant.requested execution executionMember
  obtain rfl := invariant.requestKeys.unique otherMember member (identity.trans same)
  exact status

theorem unexecuted (invariant : LifecycleInvariant tables) (member : request ∈ tables.requests)
    (early : request.status.executed = false) :
    ∀ execution ∈ tables.executions, execution.requestId ≠ request.id := by
  intro execution executionMember same
  have status := invariant.status_eq member executionMember same
  rw [status, execution.status.executed_requestStatus] at early
  cases early

theorem updateRequest (invariant : LifecycleInvariant tables) (new : ChangeRequestRow)
    (member : request ∈ tables.requests) (same : new.id = request.id)
    (early : request.status.executed = false) (stillEarly : new.status.executed = false)
    (approvals : List ApprovalRow) :
    LifecycleInvariant { tables with
      requests := Table.replace (·.id) tables.requests new, approvals } where
  requestKeys := invariant.requestKeys.replace
  executionKeys := invariant.executionKeys
  onePerRequest := invariant.onePerRequest
  onePerExecution := invariant.onePerExecution
  requested execution executionMember := by
    obtain ⟨other, otherMember, identity, status⟩ := invariant.requested execution executionMember
    have different : other.id ≠ new.id := by
      intro equal
      apply invariant.unexecuted member early execution executionMember
      exact identity.symm.trans (equal.trans same)
    exact ⟨other, Table.mem_replace.mpr (.inr ⟨otherMember, different⟩), identity, status⟩
  executed other otherMember executed := by
    rcases Table.mem_replace.mp otherMember with ⟨rfl, _⟩ | ⟨kept, _⟩
    · rw [stillEarly] at executed
      cases executed
    · exact invariant.executed other kept executed
  receipted := invariant.receipted
  settled := invariant.settled

theorem create (invariant : LifecycleInvariant tables) (draft : request.status = .draft)
    (fresh : ∀ other ∈ tables.requests, other.id ≠ request.id) :
    LifecycleInvariant { tables with requests := tables.requests ++ [request] } where
  requestKeys := invariant.requestKeys.append fresh
  executionKeys := invariant.executionKeys
  onePerRequest := invariant.onePerRequest
  onePerExecution := invariant.onePerExecution
  requested execution executionMember := by
    obtain ⟨other, otherMember, found⟩ := invariant.requested execution executionMember
    exact ⟨other, List.mem_append_left _ otherMember, found⟩
  executed other otherMember executed := by
    rcases List.mem_append.mp otherMember with kept | new
    · exact invariant.executed other kept executed
    · obtain rfl := List.mem_singleton.mp new
      rw [draft] at executed
      cases executed
  receipted := invariant.receipted
  settled := invariant.settled

theorem start (invariant : LifecycleInvariant tables) {execution : ExecutionRow} (now : String)
    (member : request ∈ tables.requests) (approved : request.status = .approved)
    (ofRequest : execution.requestId = request.id) (running : execution.status = .running)
    (fresh : ∀ other ∈ tables.executions, other.id ≠ execution.id) :
    LifecycleInvariant { tables with
      requests := Table.replace (·.id) tables.requests
        (ChangeRequestService.setStatus .running now request)
      executions := tables.executions ++ [execution] } where
  requestKeys := invariant.requestKeys.replace
  executionKeys := invariant.executionKeys.append fresh
  onePerRequest := by
    apply invariant.onePerRequest.append
    rw [ofRequest]
    exact invariant.unexecuted member (approved ▸ rfl)
  onePerExecution := invariant.onePerExecution
  requested other otherMember := by
    rcases List.mem_append.mp otherMember with old | new
    · obtain ⟨its, itsMember, identity, status⟩ := invariant.requested other old
      refine ⟨its, Table.mem_replace.mpr (.inr ⟨itsMember, fun same => ?_⟩), identity, status⟩
      exact invariant.unexecuted member (approved ▸ rfl) other old (identity.symm.trans same)
    · obtain rfl := List.mem_singleton.mp new
      refine ⟨_, Table.mem_replace.mpr (.inl ⟨rfl, request, member, rfl⟩), ofRequest.symm, ?_⟩
      rw [running]
      rfl
  executed other otherMember executed := by
    rcases Table.mem_replace.mp otherMember with ⟨rfl, _⟩ | ⟨kept, _⟩
    · exact ⟨execution, List.mem_append_right _ (List.mem_singleton_self _), ofRequest⟩
    · obtain ⟨its, itsMember, same⟩ := invariant.executed other kept executed
      exact ⟨its, List.mem_append_left _ itsMember, same⟩
  receipted other otherMember terminal := by
    rcases List.mem_append.mp otherMember with old | new
    · exact invariant.receipted other old terminal
    · obtain rfl := List.mem_singleton.mp new
      exact absurd running terminal
  settled receipt receiptMember := by
    obtain ⟨its, itsMember, found⟩ := invariant.settled receipt receiptMember
    exact ⟨its, List.mem_append_left _ itsMember, found⟩

theorem finish (invariant : LifecycleInvariant tables) {execution finished : ExecutionRow}
    {receipt : ReceiptRow} {status : RequestStatus} (now : String)
    (member : request ∈ tables.requests) (executionMember : execution ∈ tables.executions)
    (sameId : execution.id = finished.id) (wasRunning : execution.status = .running)
    (ofRequest : execution.requestId = request.id)
    (sameRequest : finished.requestId = execution.requestId) (terminal : finished.status ≠ .running)
    (given : status = finished.status.requestStatus)
    (ofExecution : receipt.executionId = finished.id)
    (sameStatus : receipt.payload.get "status" = .str finished.status.word)
    (fresh : ∀ other ∈ tables.receipts, other.executionId ≠ receipt.executionId) :
    LifecycleInvariant { tables with
      requests := Table.replace (·.id) tables.requests
        (ChangeRequestService.setStatus status now request)
      executions := Table.replace (·.id) tables.executions finished
      receipts := tables.receipts ++ [receipt] } where
  requestKeys := invariant.requestKeys.replace
  executionKeys := invariant.executionKeys.replace
  onePerRequest := by
    have same : (Table.replace (·.id) tables.executions finished).map (·.requestId) =
        tables.executions.map (·.requestId) := by
      unfold Table.replace
      rw [List.map_map]
      apply List.map_congr_left
      intro other otherMember
      by_cases matched : other.id = finished.id
      · obtain rfl := invariant.executionKeys.unique otherMember executionMember
          (matched.trans sameId.symm)
        simp [sameId, sameRequest]
      · simp [matched]
    rw [Table.Keyed, same]
    exact invariant.onePerRequest
  onePerExecution := invariant.onePerExecution.append fresh
  requested other otherMember := by
    rcases Table.mem_replace.mp otherMember with ⟨rfl, _⟩ | ⟨kept, different⟩
    · exact ⟨_, Table.mem_replace.mpr (.inl ⟨rfl, request, member, rfl⟩),
        (sameRequest.trans ofRequest).symm, given⟩
    · obtain ⟨its, itsMember, identity, found⟩ := invariant.requested other kept
      refine ⟨its, Table.mem_replace.mpr (.inr ⟨itsMember, fun same => different ?_⟩), identity,
        found⟩
      have one : other.requestId = execution.requestId :=
        identity.symm.trans (same.trans ofRequest.symm)
      obtain rfl := invariant.onePerRequest.unique kept executionMember one
      exact sameId
  executed other otherMember executed := by
    have replaced : finished ∈ Table.replace (·.id) tables.executions finished :=
      Table.mem_replace.mpr (.inl ⟨rfl, execution, executionMember, sameId⟩)
    rcases Table.mem_replace.mp otherMember with ⟨rfl, _⟩ | ⟨kept, _⟩
    · exact ⟨finished, replaced, sameRequest.trans ofRequest⟩
    · obtain ⟨its, itsMember, same⟩ := invariant.executed other kept executed
      by_cases matched : its.id = finished.id
      · obtain rfl := invariant.executionKeys.unique itsMember executionMember
          (matched.trans sameId.symm)
        exact ⟨finished, replaced, sameRequest.trans same⟩
      · exact ⟨its, Table.mem_replace.mpr (.inr ⟨itsMember, matched⟩), same⟩
  receipted other otherMember ended := by
    rcases Table.mem_replace.mp otherMember with ⟨rfl, _⟩ | ⟨kept, _⟩
    · exact ⟨receipt, List.mem_append_right _ (List.mem_singleton_self _), ofExecution, sameStatus⟩
    · obtain ⟨its, itsMember, found⟩ := invariant.receipted other kept ended
      exact ⟨its, List.mem_append_left _ itsMember, found⟩
  settled other otherMember := by
    rcases List.mem_append.mp otherMember with old | new
    · obtain ⟨its, itsMember, same, ended⟩ := invariant.settled other old
      refine ⟨its, Table.mem_replace.mpr (.inr ⟨itsMember, fun matched => ended ?_⟩), same, ended⟩
      obtain rfl := invariant.executionKeys.unique itsMember executionMember
        (matched.trans sameId.symm)
      exact wasRunning
    · obtain rfl := List.mem_singleton.mp new
      exact ⟨finished, Table.mem_replace.mpr (.inl ⟨rfl, execution, executionMember, sameId⟩),
        ofExecution.symm, terminal⟩

theorem step (invariant : LifecycleInvariant tables) (step : LifecycleStep sha256 tables next) :
    LifecycleInvariant next := by
  cases step with
  | idle => exact invariant
  | created request draft unbound fresh => exact invariant.create draft fresh
  | submitted request digest now found draft bound =>
      have early : request.status.executed = false := by rw [draft]; rfl
      exact invariant.updateRequest (ChangeRequestService.markSubmitted digest now request)
        (Table.mem_of_lookup found).1 rfl early rfl _
  | decided request approval status now found awaiting ofRequest independent bound once verdict =>
      have early : request.status.executed = false := by rw [awaiting]; rfl
      have stillEarly : status.executed = false := by
        generalize approval.decision = decision at verdict
        cases verdict <;> rfl
      exact invariant.updateRequest (ChangeRequestService.setStatus status now request)
        (Table.mem_of_lookup found).1 rfl early stillEarly _
  | started request execution now found approved ofRequest running fresh =>
      exact invariant.start now (Table.mem_of_lookup found).1 approved ofRequest running fresh
  | finished request execution finished receipt status now found foundExecution wasRunning
      ofRequest sameRequest terminal ofExecution sameStatus fresh =>
      obtain ⟨executionMember, sameId⟩ := Table.mem_of_lookup foundExecution
      have given : finished.status ≠ .running ∧ status = finished.status.requestStatus := by
        rcases terminal with ⟨ended, rfl⟩ | ⟨ended | ended, rfl⟩ <;> rw [ended] <;>
          exact ⟨by decide, rfl⟩
      exact invariant.finish now (Table.mem_of_lookup found).1 executionMember sameId wasRunning
        ofRequest sameRequest given.1 given.2 ofExecution sameStatus fresh

end LifecycleInvariant

/-- One call of a run.  `elsewhere` lets the other tables change in any way. -/
inductive ChangeCall where
  | create (supplies : CallSupplies)
      (actorId workspaceId title description risk environment adapter : String) (payload : Json)
  | submit (supplies : CallSupplies) (actorId requestId : String)
  | approve (service : ChangeRequestService) (supplies : CallSupplies)
      (actorId requestId decision reason : String)
  | execute (service : ExecutionService) (supplies : CallSupplies) (actorId requestId : String)
      (idempotencyKey : Option String)
  | complete (supplies : CallSupplies) (pending : Nat) (outcome : AdapterOutcome)
  | recover (service : ExecutionService) (supplies : CallSupplies)
      (actorId executionId reason : String)
  | elsewhere (other : Database)

/-- The tables of `other` with the lifecycle tables of the database. -/
def Database.withLifecycle (db other : Database) : Database :=
  (((other.setChangeRequests db.changeRequests).setApprovals db.approvals).setExecutions
    db.executions).setReceipts db.receipts

/-- A database with the executions that were started and may still report. -/
structure ChangeWorld where
  db : Database
  pending : List PendingExecution

def ChangeCall.body (sha256 : String → String) (pending : List PendingExecution) :
    ChangeCall → Database → Except Raised (Option PendingExecution × Database)
  | .create supplies actorId workspaceId title description risk environment adapter payload,
      db => do
      let (_, next) ← ChangeRequestService.createChangeRequest sha256 supplies actorId workspaceId
        title description risk environment adapter payload db
      return (none, next)
  | .submit supplies actorId requestId, db => do
      let (_, next) ← ChangeRequestService.submitChangeRequest sha256 supplies actorId requestId db
      return (none, next)
  | .approve service supplies actorId requestId decision reason, db => do
      let (_, next) ← service.approveChangeRequest sha256 supplies actorId requestId decision
        reason db
      return (none, next)
  | .execute service supplies actorId requestId idempotencyKey, db => do
      let (started, next) ← service.execute sha256 supplies actorId requestId idempotencyKey db
      return (started.getRight?, next)
  | .complete supplies index outcome, db =>
      match pending[index]? with
      | none => .ok (none, db)
      | some reporting => do
          let (_, next) ← ExecutionService.complete sha256 supplies reporting outcome db
          return (none, next)
  | .recover service supplies actorId executionId reason, db => do
      let (_, next) ← service.recover sha256 supplies actorId executionId reason db
      return (none, next)
  | .elsewhere other, db => .ok (none, db.withLifecycle other)

def startedBy : Except Raised (Option PendingExecution) → List PendingExecution
  | .ok (some pending) => [pending]
  | _ => []

namespace ChangeWorld

/-- A database without requests, approvals, executions and receipts, before any call. -/
def start (store : Database) : ChangeWorld where
  db := (((store.setChangeRequests []).setApprovals []).setExecutions []).setReceipts []
  pending := []

def step (sha256 : String → String) (world : ChangeWorld) (call : ChangeCall) : ChangeWorld :=
  let (reply, db) := Transaction.commit (call.body sha256 world.pending) world.db
  ⟨db, world.pending ++ startedBy reply⟩

end ChangeWorld

/-- What every call keeps. -/
structure ChangeInvariant (world : ChangeWorld) : Prop where
  tables : LifecycleInvariant world.db.lifecycle
  /-- A pending outcome is about an execution of its request. -/
  pending : ∀ pending ∈ world.pending, ∃ execution ∈ world.db.executions,
    execution.id = pending.executionId ∧ execution.requestId = pending.requestId

/-- Executions stay, as executions of their requests, and terminal ones do not change. -/
structure ExecutionProgress (before after : LifecycleTables) : Prop where
  kept : ∀ execution ∈ before.executions, ∃ later ∈ after.executions,
    later.id = execution.id ∧ later.requestId = execution.requestId
  terminal : ∀ execution ∈ before.executions, execution.status ≠ .running →
    execution ∈ after.executions
  receipts : before.receipts <+: after.receipts

namespace ExecutionProgress

variable {first second third : LifecycleTables}

theorem refl (tables : LifecycleTables) : ExecutionProgress tables tables :=
  ⟨fun execution member => ⟨execution, member, rfl, rfl⟩, fun _ member _ => member,
    List.prefix_rfl⟩

theorem of_same (executions : second.executions = first.executions)
    (receipts : second.receipts = first.receipts) : ExecutionProgress first second where
  kept execution member := ⟨execution, executions ▸ member, rfl, rfl⟩
  terminal _ member _ := executions ▸ member
  receipts := receipts ▸ List.prefix_rfl

theorem trans (early : ExecutionProgress first second) (late : ExecutionProgress second third) :
    ExecutionProgress first third where
  kept execution member := by
    obtain ⟨middle, middleMember, sameId, sameRequest⟩ := early.kept execution member
    obtain ⟨last, lastMember, againId, againRequest⟩ := late.kept middle middleMember
    exact ⟨last, lastMember, againId.trans sameId, againRequest.trans sameRequest⟩
  terminal execution member ended :=
    late.terminal execution (early.terminal execution member ended) ended
  receipts := early.receipts.trans late.receipts

end ExecutionProgress

theorem LifecycleStep.progress {sha256 : String → String} {before after : LifecycleTables}
    (step : LifecycleStep sha256 before after) (keys : Table.Keyed (·.id) before.executions) :
    ExecutionProgress before after := by
  cases step with
  | idle => exact .refl _
  | created request draft unbound fresh => exact .of_same rfl rfl
  | submitted request digest now found draft bound => exact .of_same rfl rfl
  | decided request approval status now found awaiting ofRequest independent bound once verdict =>
      exact .of_same rfl rfl
  | started request execution now found approved ofRequest running fresh =>
      exact ⟨fun other member => ⟨other, List.mem_append_left _ member, rfl, rfl⟩,
        fun other member _ => List.mem_append_left _ member, List.prefix_rfl⟩
  | finished request execution finished receipt status now found foundExecution wasRunning
      ofRequest sameRequest terminal ofExecution sameStatus fresh =>
      obtain ⟨executionMember, sameId⟩ := Table.mem_of_lookup foundExecution
      have only : ∀ other ∈ before.executions, other.id = finished.id → other = execution :=
        fun other member same => keys.unique member executionMember (same.trans sameId.symm)
      refine ⟨fun other member => ?_, fun other member ended => ?_, List.prefix_append _ _⟩
      · by_cases same : other.id = finished.id
        · obtain rfl := only other member same
          exact ⟨finished, Table.mem_replace.mpr (.inl ⟨rfl, other, member, same⟩), same.symm,
            sameRequest⟩
        · exact ⟨other, Table.mem_replace.mpr (.inr ⟨member, same⟩), rfl, rfl⟩
      · refine Table.mem_replace.mpr (.inr ⟨member, fun same => ended ?_⟩)
        rw [only other member same]
        exact wasRunning

theorem ChangeWorld.step_cases (sha256 : String → String) {world : ChangeWorld}
    (invariant : ChangeInvariant world) (call : ChangeCall) :
    LifecycleStep sha256 world.db.lifecycle (world.step sha256 call).db.lifecycle ∧
      ∀ pending ∈ (world.step sha256 call).pending, pending ∈ world.pending ∨
        ∃ execution ∈ (world.step sha256 call).db.executions,
          execution.id = pending.executionId ∧ execution.requestId = pending.requestId := by
  cases returned : call.body sha256 world.pending world.db with
  | error error =>
      simp only [step, Transaction.commit_of_error returned]
      exact ⟨.idle, fun pending member => .inl (by simpa [startedBy] using member)⟩
  | ok outcome =>
      obtain ⟨reply, db⟩ := outcome
      simp only [step, Transaction.commit_of_ok returned]
      have silent (step : LifecycleStep sha256 world.db.lifecycle db.lifecycle)
          (nothing : reply = none) :
          LifecycleStep sha256 world.db.lifecycle db.lifecycle ∧
            ∀ pending ∈ world.pending ++ startedBy (.ok reply), pending ∈ world.pending ∨
              ∃ execution ∈ db.executions, execution.id = pending.executionId ∧
                execution.requestId = pending.requestId := by
        subst nothing
        exact ⟨step, fun pending member => .inl (by simpa [startedBy] using member)⟩
      cases call with
      | create supplies actorId workspaceId title description risk environment adapter payload =>
          simp only [ChangeCall.body, bind_eq_ok, pure_eq_ok, Prod.mk.injEq] at returned
          obtain ⟨⟨_, next⟩, created, rfl, rfl⟩ := returned
          exact silent (ChangeRequestService.createChangeRequest_step created) rfl
      | submit supplies actorId requestId =>
          simp only [ChangeCall.body, bind_eq_ok, pure_eq_ok, Prod.mk.injEq] at returned
          obtain ⟨⟨_, next⟩, submitted, rfl, rfl⟩ := returned
          exact silent (ChangeRequestService.submitChangeRequest_step submitted) rfl
      | approve service supplies actorId requestId decision reason =>
          simp only [ChangeCall.body, bind_eq_ok, pure_eq_ok, Prod.mk.injEq] at returned
          obtain ⟨⟨_, next⟩, approved, rfl, rfl⟩ := returned
          exact silent (ChangeRequestService.approveChangeRequest_step approved) rfl
      | execute service supplies actorId requestId idempotencyKey =>
          simp only [ChangeCall.body, bind_eq_ok, pure_eq_ok, Prod.mk.injEq] at returned
          obtain ⟨⟨started, next⟩, executed, rfl, rfl⟩ := returned
          simp only [ExecutionService.execute, bind_eq_ok] at executed
          obtain ⟨existing, _, executed⟩ := executed
          cases existing with
          | some executionId =>
              cases executed
              exact silent .idle rfl
          | none =>
              simp only [bind_eq_ok, pure_eq_ok, Prod.mk.injEq] at executed
              obtain ⟨⟨pending, _⟩, starts, rfl, rfl⟩ := executed
              obtain ⟨step, bound⟩ := ExecutionService.start_step starts
              refine ⟨step, fun other member => ?_⟩
              rcases List.mem_append.mp member with old | new
              · exact .inl old
              · obtain rfl := List.mem_singleton.mp new
                exact .inr bound
      | complete supplies index outcome =>
          simp only [ChangeCall.body] at returned
          split at returned
          · cases returned
            exact silent .idle rfl
          · next reporting found =>
            simp only [bind_eq_ok, pure_eq_ok, Prod.mk.injEq] at returned
            obtain ⟨⟨_, next⟩, completed, rfl, rfl⟩ := returned
            refine silent (ExecutionService.complete_step completed ?_ ?_) rfl
            · intro execution isExecution
              obtain ⟨other, otherMember, sameId, sameRequest⟩ :=
                invariant.pending reporting (List.mem_of_getElem? found)
              obtain ⟨member, identity⟩ := Table.mem_of_lookup isExecution
              obtain rfl := invariant.tables.executionKeys.unique otherMember member
                (sameId.trans identity.symm)
              exact sameRequest
            · intro execution member
              obtain ⟨request, requestMember, identity, _⟩ :=
                invariant.tables.requested execution member
              exact ⟨request, identity ▸ invariant.tables.requestKeys.lookup_of_mem requestMember⟩
      | recover service supplies actorId executionId reason =>
          simp only [ChangeCall.body, bind_eq_ok, pure_eq_ok, Prod.mk.injEq] at returned
          obtain ⟨⟨_, next⟩, recovered, rfl, rfl⟩ := returned
          exact silent (ExecutionService.recover_step recovered) rfl
      | elsewhere other =>
          cases returned
          exact silent .idle rfl

namespace ChangeInvariant

variable {world : ChangeWorld}

theorem start (store : Database) : ChangeInvariant (ChangeWorld.start store) :=
  ⟨.empty [], fun _ member => by cases member⟩

theorem step (invariant : ChangeInvariant world) (sha256 : String → String) (call : ChangeCall) :
    ChangeInvariant (world.step sha256 call) := by
  obtain ⟨step, pending⟩ := ChangeWorld.step_cases sha256 invariant call
  refine ⟨invariant.tables.step step, fun waiting member => ?_⟩
  rcases pending waiting member with old | new
  · obtain ⟨execution, executionMember, sameId, sameRequest⟩ := invariant.pending waiting old
    obtain ⟨later, laterMember, keptId, keptRequest⟩ :=
      (step.progress invariant.tables.executionKeys).kept execution executionMember
    exact ⟨later, laterMember, keptId.trans sameId, keptRequest.trans sameRequest⟩
  · exact new

theorem run (invariant : ChangeInvariant world) (sha256 : String → String)
    (calls : List ChangeCall) :
    ChangeInvariant (Transaction.run (ChangeWorld.step sha256) world calls) :=
  Transaction.run_invariant (fun _ call held => held.step sha256 call) invariant calls

theorem progress (invariant : ChangeInvariant world) (sha256 : String → String)
    (calls : List ChangeCall) : ExecutionProgress world.db.lifecycle
      (Transaction.run (ChangeWorld.step sha256) world calls).db.lifecycle :=
  Transaction.run_relation
    (fun before after : ChangeWorld => ExecutionProgress before.db.lifecycle after.db.lifecycle)
    (fun _ call held => held.step sha256 call) (fun world => .refl world.db.lifecycle)
    ExecutionProgress.trans
    (fun _ call held => (ChangeWorld.step_cases sha256 held call).1.progress
      held.tables.executionKeys) invariant calls

end ChangeInvariant

/-- Requests, executions and receipts of one world. -/
structure LifecycleSafety (tables : LifecycleTables) : Prop where
  /-- A request has at most one execution. -/
  oneExecution : (tables.executions.map (·.requestId)).Nodup
  /-- An execution has at most one receipt. -/
  oneReceipt : (tables.receipts.map (·.executionId)).Nodup
  /-- An execution has a receipt exactly when it is terminal. -/
  receipts : ∀ execution ∈ tables.executions, execution.status ≠ .running ↔
    ∃ receipt ∈ tables.receipts, receipt.executionId = execution.id
  /-- A receipt tells the status of its execution. -/
  statuses : ∀ receipt ∈ tables.receipts, ∃ execution ∈ tables.executions,
    execution.id = receipt.executionId ∧ receipt.payload.get "status" = .str execution.status.word
  /-- A request is running exactly when its execution is. -/
  running : ∀ request ∈ tables.requests, request.status = .running ↔
    ∃ execution ∈ tables.executions, execution.requestId = request.id ∧ execution.status = .running
  /-- A request is completed exactly when its execution succeeded. -/
  completed : ∀ request ∈ tables.requests, request.status = .completed ↔
    ∃ execution ∈ tables.executions, execution.requestId = request.id ∧
      execution.status = .succeeded
  /-- A request has failed exactly when its execution failed or was interrupted. -/
  failed : ∀ request ∈ tables.requests, request.status = .failed ↔
    ∃ execution ∈ tables.executions, execution.requestId = request.id ∧
      (execution.status = .failed ∨ execution.status = .interrupted)

namespace LifecycleInvariant

variable {tables : LifecycleTables}

theorem status_iff (invariant : LifecycleInvariant tables) {request : ChangeRequestRow}
    (member : request ∈ tables.requests) {status : RequestStatus} (late : status.executed = true) :
    request.status = status ↔ ∃ execution ∈ tables.executions,
      execution.requestId = request.id ∧ execution.status.requestStatus = status := by
  constructor
  · rintro rfl
    obtain ⟨execution, executionMember, same⟩ := invariant.executed request member late
    exact ⟨execution, executionMember, same, (invariant.status_eq member executionMember same).symm⟩
  · rintro ⟨execution, executionMember, same, rfl⟩
    exact invariant.status_eq member executionMember same

theorem safety (invariant : LifecycleInvariant tables) : LifecycleSafety tables where
  oneExecution := invariant.onePerRequest
  oneReceipt := invariant.onePerExecution
  receipts execution member := by
    constructor
    · intro ended
      obtain ⟨receipt, receiptMember, same, _⟩ := invariant.receipted execution member ended
      exact ⟨receipt, receiptMember, same⟩
    · rintro ⟨receipt, receiptMember, same⟩
      obtain ⟨other, otherMember, identity, ended⟩ := invariant.settled receipt receiptMember
      obtain rfl := invariant.executionKeys.unique otherMember member (identity.trans same)
      exact ended
  statuses receipt receiptMember := by
    obtain ⟨execution, member, identity, ended⟩ := invariant.settled receipt receiptMember
    obtain ⟨other, otherMember, same, told⟩ := invariant.receipted execution member ended
    obtain rfl := invariant.onePerExecution.unique otherMember receiptMember
      (same.trans identity)
    exact ⟨execution, member, identity, told⟩
  running request member := by
    rw [invariant.status_iff member rfl]
    have same : ∀ status : ExecutionStatus,
        status.requestStatus = .running ↔ status = .running := by
      intro status
      cases status <;> decide
    simp only [same]
  completed request member := by
    rw [invariant.status_iff member rfl]
    have same : ∀ status : ExecutionStatus,
        status.requestStatus = .completed ↔ status = .succeeded := by
      intro status
      cases status <;> decide
    simp only [same]
  failed request member := by
    rw [invariant.status_iff member rfl]
    have same : ∀ status : ExecutionStatus,
        status.requestStatus = .failed ↔ status = .failed ∨ status = .interrupted := by
      intro status
      cases status <;> decide
    simp only [same]

end LifecycleInvariant

/-- An outcome that arrives when its execution is terminal changes nothing. -/
theorem ExecutionService.complete_late {sha256 : String → String} {db : Database}
    {pending : PendingExecution} {execution : ExecutionRow}
    (found : Table.lookup (·.id) db.executions pending.executionId = some execution)
    (ended : execution.status ≠ .running) (supplies : CallSupplies) (outcome : AdapterOutcome) :
    (Transaction.commit (complete sha256 supplies pending outcome) db).2 = db := by
  refine Transaction.commit_cases (motive := fun next => next = db) _ _ rfl ?_
  intro recorded next returned
  have unmatched : ∀ change, db.updateExecution pending.executionId
      (fun row => row.status = .running ∧ row.fence = pending.fence) change = none := by
    intro change
    simp [Database.updateExecution, found, ended]
  simp only [complete, unmatched, bind_eq_ok, pure_eq_ok, Prod.mk.injEq] at returned
  obtain ⟨_, _, _, same⟩ := returned
  exact same.symm

/-- The execution lifecycle over whole runs: the tables are in step, terminal executions and
receipts are final, and late outcomes change nothing. -/
theorem executions_lifecycle (sha256 : String → String) (store : Database)
    (calls later : List ChangeCall) :
    let world := Transaction.run (ChangeWorld.step sha256) (ChangeWorld.start store) calls
    let after := Transaction.run (ChangeWorld.step sha256) world later
    LifecycleSafety world.db.lifecycle ∧ ExecutionProgress world.db.lifecycle after.db.lifecycle ∧
      ∀ execution ∈ world.db.executions, execution.status ≠ .running →
        ∀ pending ∈ after.pending, pending.executionId = execution.id → ∀ supplies outcome,
          (Transaction.commit (ExecutionService.complete sha256 supplies pending outcome)
            after.db).2 = after.db := by
  intro world after
  have invariant : ChangeInvariant world := (ChangeInvariant.start store).run sha256 calls
  have progress := invariant.progress sha256 later
  refine ⟨invariant.tables.safety, progress, ?_⟩
  intro execution member ended pending _ same supplies outcome
  have kept := progress.terminal execution member ended
  have keys := (invariant.run sha256 later).tables.executionKeys
  exact ExecutionService.complete_late (same ▸ keys.lookup_of_mem kept) ended supplies outcome

end VoodooOne
