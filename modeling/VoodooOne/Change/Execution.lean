import VoodooOne.Authority.Permission
import VoodooOne.Change.Service

/-!
# Executions

An approved request is started in one transaction, its adapter runs outside the database, and a
second transaction records the outcome.  An execution whose lease has run out may be interrupted in
between; the fence then keeps the late outcome out.
-/

namespace VoodooOne

def ExecutionStatus.word : ExecutionStatus → String
  | .running => "RUNNING"
  | .succeeded => "SUCCEEDED"
  | .failed => "FAILED"
  | .interrupted => "INTERRUPTED"

inductive AdapterOutcome where
  | returned (output : List (String × Json))
  | raised (typeName message : String)

def AdapterOutcome.result : AdapterOutcome → ExecutionStatus × Json × Option String
  | .returned output =>
      if output.lookup "success" = some (.bool false) then
        (.failed, .object [("error_type", .str "AdapterError")],
          some "validation adapter returned non-zero status")
      else (.succeeded, .object output, none)
  | .raised typeName message =>
      (.failed, .object [("error_type", .str typeName)],
        some (String.ofList (message.toList.take 2000)))

/-- `ExecutionService`, with the parts of its configuration that it reads and the two functions on
leases that its constructor receives. -/
structure ExecutionService where
  productionEffectsEnabled : Bool
  executionLeaseSeconds : Nat
  leaseDeadline : String → Nat → Except Raised String
  leaseExpired : String → String → Except Raised Bool

/-- An execution that was started and whose adapter has not reported yet. -/
structure PendingExecution where
  (executionId requestId actorId : String)
  fence : Nat
  request : ChangeRequestRow

namespace ExecutionService

variable (sha256 : String → String)

def runningRow (supplies : CallSupplies) (request : ChangeRequestRow) (requestId : String)
    (idempotencyKey : Option String) (leaseExpiresAt : String) : ExecutionRow where
  id := supplies.newId
  requestId
  status := .running
  adapter := request.adapter
  output := .object []
  error := none
  idempotencyKey
  startedAt := supplies.now
  completedAt := none
  fence := 1
  leaseExpiresAt := some leaseExpiresAt

/-- The execution that an idempotency key has started; an empty key is no key. -/
def existingExecution (db : Database) (idempotencyKey : Option String) (requestId : String) :
    Except Raised (Option String) :=
  match idempotencyKey.filter (· ≠ "") with
  | none => .ok none
  | some key =>
      match db.executions.find? fun row => row.idempotencyKey = some key with
      | none => .ok none
      | some existing => do
          raiseIf (existing.requestId ≠ requestId)
            ⟨.runtimeError, "idempotency key is bound to another request"⟩
          return some existing.id

/-- The first transaction of `execute_change_request` when the key has started nothing. -/
def start (service : ExecutionService) (supplies : CallSupplies) (actorId requestId : String)
    (idempotencyKey : Option String) (db : Database) :
    Except Raised (PendingExecution × Database) := do
  raiseIf (db.emergencyStopActive = true) ⟨.permissionError, "emergency stop is active"⟩
  let (request, workspaceEnvironment) ← orRaise ⟨.lookupError, "change request not found"⟩
    (db.requestContext requestId)
  requireWorkspaceEnvironment request.environment workspaceEnvironment
  raiseIf (request.status ≠ .approved) ⟨.permissionError, "change request is not approved"⟩
  raiseIf (request.environment = "production" ∧ service.productionEffectsEnabled = false)
    ⟨.permissionError, "production effects remain disabled"⟩
  raiseIf (request.adapter = "github-read-ref")
    ⟨.permissionError, "github-read-ref requires the canonical operation runtime"⟩
  let leaseExpiresAt ← service.leaseDeadline supplies.now service.executionLeaseSeconds
  let inserted ← db.insertExecution
    (runningRow supplies request requestId idempotencyKey leaseExpiresAt)
  let running ← inserted.updateChangeRequest requestId
    (ChangeRequestService.setStatus .running supplies.now)
  let audited ← running.appendAudit sha256 supplies.audit
    { actorId
      action := "execution.start"
      targetType := "execution"
      targetId := supplies.newId
      payload := .object [("request_id", .str requestId), ("adapter", .str request.adapter)] }
  supplies.fault
  return (⟨supplies.newId, requestId, actorId, 1, request⟩, audited)

/-- The first transaction of `execute_change_request`: the execution that the key has started, or
the one that it starts now. -/
def execute (service : ExecutionService) (supplies : CallSupplies) (actorId requestId : String)
    (idempotencyKey : Option String) (db : Database) :
    Except Raised ((String ⊕ PendingExecution) × Database) := do
  let existing ← existingExecution db idempotencyKey requestId
  match existing with
  | some executionId => return (.inl executionId, db)
  | none => do
      let (pending, next) ← service.start sha256 supplies actorId requestId idempotencyKey db
      return (.inr pending, next)

/-- The common part of an execution's receipt. -/
def receiptFields (executionId requestId actorId adapter risk environment workspaceId : String)
    (status : ExecutionStatus) (output : Json) (completedAt : String) : List (String × Json) :=
  [("execution_id", .str executionId), ("request_id", .str requestId),
    ("workspace_id", .str workspaceId), ("actor_id", .str actorId), ("adapter", .str adapter),
    ("risk", .str risk), ("environment", .str environment), ("status", .str status.word),
    ("output_digest", .str (digestOf sha256 output)), ("completed_at", .str completedAt)]

/-- `executions.complete`. -/
def completed (status : ExecutionStatus) (output : Json) (error : Option String)
    (completedAt : String) (row : ExecutionRow) : ExecutionRow :=
  { row with status, output, error, completedAt := some completedAt, leaseExpiresAt := none }

/-- The second transaction of `execute_change_request`.  The result is whether the outcome was
recorded. -/
def complete (supplies : CallSupplies) (pending : PendingExecution) (outcome : AdapterOutcome)
    (db : Database) : Except Raised (Bool × Database) := do
  let (status, output, error) := outcome.result
  match db.updateExecution pending.executionId
      (fun row => row.status = .running ∧ row.fence = pending.fence)
      (completed status output error supplies.now) with
  | none => do
      supplies.fault
      return (false, db)
  | some (_, recorded) => do
      let updated ← recorded.updateChangeRequest pending.requestId (ChangeRequestService.setStatus
        (if status = .succeeded then .completed else .failed) supplies.now)
      let (receipt, receipted) ← updated.appendReceipt sha256 supplies.receipt
        pending.executionId
        (.object (receiptFields sha256 pending.executionId pending.requestId pending.actorId
          pending.request.adapter pending.request.risk pending.request.environment
          pending.request.workspaceId status output supplies.now))
      let audited ← receipted.appendAudit sha256 supplies.audit
        { actorId := pending.actorId
          action := "execution." ++ status.word.toLower
          targetType := "execution"
          targetId := pending.executionId
          payload := .object [("request_id", .str pending.requestId),
            ("receipt_id", .str receipt.id), ("error", error.elim .null .str)] }
      supplies.fault
      return (true, audited)

def interruptedOutput : Json :=
  .object [("error_type", .str "ExecutionInterrupted"), ("outcome", .str "INDETERMINATE")]

/-- `executions.interrupt`. -/
def interrupted (now : String) (row : ExecutionRow) : ExecutionRow :=
  { row with
    status := .interrupted
    output := interruptedOutput
    error := some "execution outcome is indeterminate after lease expiry"
    completedAt := some now
    leaseExpiresAt := none
    fence := row.fence + 1 }

/-- Whether a running execution may be interrupted; without a lease it always may. -/
def leaseHasExpired (service : ExecutionService) (leaseExpiresAt : Option String) (now : String) :
    Except Raised Bool :=
  match leaseExpiresAt with
  | none => .ok true
  | some leaseExpiresAt => service.leaseExpired leaseExpiresAt now

/-- `recover_execution`. -/
def recover (service : ExecutionService) (supplies : CallSupplies)
    (actorId executionId reason : String) (db : Database) : Except Raised (Unit × Database) := do
  let reason := strip reason
  raiseIf (¬(3 ≤ reason.length ∧ reason.length ≤ 2000))
    (valueError "recovery reason must contain 3 to 2000 characters")
  raiseIf (db.emergencyStopActive = false)
    ⟨.permissionError, "emergency stop must be active for execution recovery"⟩
  let execution ← orRaise ⟨.lookupError, "execution not found"⟩
    (Table.lookup (·.id) db.executions executionId)
  let request ← orRaise ⟨.lookupError, "execution not found"⟩
    (Table.lookup (·.id) db.changeRequests execution.requestId)
  raiseIf (execution.status ≠ .running) ⟨.runtimeError, "execution is not running"⟩
  let expired ← service.leaseHasExpired execution.leaseExpiresAt supplies.now
  raiseIf (expired = false) ⟨.runtimeError, "execution lease has not expired"⟩
  let (_, recorded) ← orRaise ⟨.runtimeError, "execution changed during recovery"⟩
    (db.updateExecution executionId
      (fun row => row.status = .running ∧ row.fence = execution.fence ∧
        row.leaseExpiresAt = execution.leaseExpiresAt)
      (interrupted supplies.now))
  let updated ← recorded.updateChangeRequest execution.requestId
    (ChangeRequestService.setStatus .failed supplies.now)
  let (receipt, receipted) ← updated.appendReceipt sha256 supplies.receipt
    executionId
    (.object (receiptFields sha256 executionId execution.requestId actorId execution.adapter
      request.risk request.environment request.workspaceId .interrupted interruptedOutput
      supplies.now ++ [("outcome", .str "INDETERMINATE")]))
  let audited ← receipted.appendAudit sha256 supplies.audit
    { actorId
      action := "execution.interrupted"
      targetType := "execution"
      targetId := executionId
      payload := .object [("request_id", .str execution.requestId),
        ("receipt_id", .str receipt.id), ("outcome", .str "INDETERMINATE"),
        ("reason", .str reason)] }
  supplies.fault
  return ((), audited)

end ExecutionService

structure LifecycleTables where
  requests : List ChangeRequestRow
  approvals : List ApprovalRow
  executions : List ExecutionRow
  receipts : List ReceiptRow

def Database.lifecycle (db : Database) : LifecycleTables :=
  ⟨db.changeRequests, db.approvals, db.executions, db.receipts⟩

/-- Approvals of a request with decision `APPROVED`. -/
def approvalsOf (approvals : List ApprovalRow) (requestId : String) : List ApprovalRow :=
  approvals.filter fun row => row.requestId = requestId ∧ row.decision = .approved

inductive Verdict (approvals : List ApprovalRow) (request : ChangeRequestRow) :
    ApprovalDecision → RequestStatus → Prop where
  | denied : Verdict approvals request .denied .denied
  | enough (count : currentRequiredApprovals request.environment ≤
      (approvalsOf approvals request.id).length) : Verdict approvals request .approved .approved
  | waiting : Verdict approvals request .approved .reviewRequired

inductive LifecycleStep (sha256 : String → String) (before : LifecycleTables) :
    LifecycleTables → Prop where
  | idle : LifecycleStep sha256 before before
  | created (request : ChangeRequestRow) (draft : request.status = .draft)
      (unbound : request.reviewContentSha256 = none)
      (fresh : ∀ other ∈ before.requests, other.id ≠ request.id) :
      LifecycleStep sha256 before { before with requests := before.requests ++ [request] }
  | submitted (request : ChangeRequestRow) (digest now : String)
      (found : Table.lookup (·.id) before.requests request.id = some request)
      (draft : request.status = .draft)
      (bound : reviewContentSha256 sha256 request = .ok digest) :
      LifecycleStep sha256 before { before with
        requests := Table.replace (·.id) before.requests
          (ChangeRequestService.markSubmitted digest now request) }
  | decided (request : ChangeRequestRow) (approval : ApprovalRow) (status : RequestStatus)
      (now : String)
      (found : Table.lookup (·.id) before.requests request.id = some request)
      (awaiting : request.status = .reviewRequired)
      (ofRequest : approval.requestId = request.id)
      (independent : approval.approverId ≠ request.requestedBy)
      (bound : approval.reviewContentSha256 = request.reviewContentSha256)
      (once : ∀ other ∈ before.approvals,
        ¬(other.requestId = approval.requestId ∧ other.approverId = approval.approverId))
      (verdict : Verdict (before.approvals ++ [approval]) request approval.decision status) :
      LifecycleStep sha256 before { before with
        requests := Table.replace (·.id) before.requests
          (ChangeRequestService.setStatus status now request)
        approvals := before.approvals ++ [approval] }
  | started (request : ChangeRequestRow) (execution : ExecutionRow) (now : String)
      (found : Table.lookup (·.id) before.requests request.id = some request)
      (approved : request.status = .approved) (ofRequest : execution.requestId = request.id)
      (running : execution.status = .running)
      (fresh : ∀ other ∈ before.executions, other.id ≠ execution.id) :
      LifecycleStep sha256 before { before with
        requests := Table.replace (·.id) before.requests
          (ChangeRequestService.setStatus .running now request)
        executions := before.executions ++ [execution] }
  | finished (request : ChangeRequestRow) (execution finished : ExecutionRow)
      (receipt : ReceiptRow) (status : RequestStatus) (now : String)
      (found : Table.lookup (·.id) before.requests request.id = some request)
      (foundExecution : Table.lookup (·.id) before.executions finished.id = some execution)
      (wasRunning : execution.status = .running)
      (ofRequest : execution.requestId = request.id)
      (sameRequest : finished.requestId = execution.requestId)
      (terminal : (finished.status = .succeeded ∧ status = .completed) ∨
        ((finished.status = .failed ∨ finished.status = .interrupted) ∧ status = .failed))
      (ofExecution : receipt.executionId = finished.id)
      (sameStatus : receipt.payload.get "status" = .str finished.status.word)
      (fresh : ∀ other ∈ before.receipts, other.executionId ≠ receipt.executionId) :
      LifecycleStep sha256 before { before with
        requests := Table.replace (·.id) before.requests
          (ChangeRequestService.setStatus status now request)
        executions := Table.replace (·.id) before.executions finished
        receipts := before.receipts ++ [receipt] }

variable {sha256 : String → String} {db next : Database} {supplies : CallSupplies}

namespace ChangeRequestService

theorem createChangeRequest_step
    {actorId workspaceId title description risk environment adapter : String} {payload : Json}
    {result : Unit} (returned : createChangeRequest sha256 supplies actorId workspaceId title
      description risk environment adapter payload db = .ok (result, next)) :
    LifecycleStep sha256 db.lifecycle next.lifecycle := by
  simp only [createChangeRequest, bind_eq_ok, pure_eq_ok, Prod.mk.injEq] at returned
  obtain ⟨_, _, _, _, _, _, _, _, _, _, _, _, inserted, isInserted, audited, isAudited, _, _, _,
    rfl⟩ := returned
  obtain ⟨rfl, fresh⟩ := Database.insertChangeRequest_eq_ok isInserted
  obtain ⟨rfl, -⟩ := Database.appendAudit_eq_ok isAudited
  exact .created _ rfl rfl fresh

theorem submitChangeRequest_step {actorId requestId : String} {result : Unit}
    (returned : submitChangeRequest sha256 supplies actorId requestId db = .ok (result, next)) :
    LifecycleStep sha256 db.lifecycle next.lifecycle := by
  simp only [submitChangeRequest, bind_eq_ok, orRaise_eq_ok, raiseIf_eq_ok, not_not, pure_eq_ok,
    Prod.mk.injEq] at returned
  obtain ⟨⟨request, environment⟩, context, _, _, _, draft, _, _, digest, bound, marked, isMarked,
    audited, isAudited, _, _, _, rfl⟩ := returned
  have found := Database.requestContext_eq_some context
  obtain rfl := (Table.mem_of_lookup found).2
  obtain rfl := Database.updateChangeRequest_eq_ok isMarked found
  obtain ⟨rfl, -⟩ := Database.appendAudit_eq_ok isAudited
  exact .submitted request digest supplies.now found draft bound

theorem approvalPolicyDecision_eq_ok {service : ChangeRequestService} {request : ChangeRequestRow}
    {decision : ApprovalPolicyDecision}
    (decided : service.approvalPolicyDecision request = .ok decision) :
    decision.requiredApprovals = currentRequiredApprovals request.environment := by
  simp only [approvalPolicyDecision, bind_eq_ok] at decided
  obtain ⟨_, _, decided⟩ := decided
  split at decided
  · simp only [resolveCurrentApprovalPolicy, bind_eq_ok, pure_eq_ok] at decided
    obtain ⟨_, _, _, _, rfl⟩ := decided
    rfl
  · cases decided
    rfl

theorem approveChangeRequest_step {service : ChangeRequestService}
    {actorId requestId decision reason : String} {result : Unit}
    (returned : service.approveChangeRequest sha256 supplies actorId requestId decision reason db =
      .ok (result, next)) :
    LifecycleStep sha256 db.lifecycle next.lifecycle := by
  simp only [approveChangeRequest, bind_eq_ok, orRaise_eq_ok, raiseIf_eq_ok, not_not,
    catching_eq_ok, pure_eq_ok, Prod.mk.injEq] at returned
  obtain ⟨verdict, _, ⟨request, environment⟩, context, _, _, _, awaiting, _, independent, stored,
    isStored, _, _, _, _, policy, isPolicy, decided, isDecided, updated, isUpdated, audited,
    isAudited, _, _, _, rfl⟩ := returned
  have found := Database.requestContext_eq_some context
  obtain rfl := (Table.mem_of_lookup found).2
  obtain ⟨rfl, guard⟩ := Database.insertApproval_eq_ok isDecided
  obtain rfl := Database.updateChangeRequest_eq_ok isUpdated found
  obtain ⟨rfl, -⟩ := Database.appendAudit_eq_ok isAudited
  refine .decided request _ _ supplies.now found awaiting rfl (Ne.symm independent) isStored.symm
    (fun other member => (guard.1 other member).2) ?_
  cases verdict with
  | denied =>
      cases isPolicy
      exact .denied
  | approved =>
      simp only [policyFor, bind_eq_ok, pure_eq_ok] at isPolicy
      obtain ⟨policyDecision, isDecision, rfl⟩ := isPolicy
      have required := approvalPolicyDecision_eq_ok isDecision
      simp only [nextStatus]
      split
      · next enough => exact .enough (required ▸ enough)
      · exact .waiting

end ChangeRequestService

namespace ExecutionService

theorem start_step {service : ExecutionService} {actorId requestId : String}
    {idempotencyKey : Option String} {pending : PendingExecution}
    (returned : service.start sha256 supplies actorId requestId idempotencyKey db =
      .ok (pending, next)) :
    LifecycleStep sha256 db.lifecycle next.lifecycle ∧
      ∃ execution ∈ next.executions, execution.id = pending.executionId ∧
        execution.requestId = pending.requestId := by
  simp only [start, bind_eq_ok, orRaise_eq_ok, raiseIf_eq_ok, not_not, pure_eq_ok,
    Prod.mk.injEq] at returned
  obtain ⟨_, _, ⟨request, environment⟩, context, _, _, _, approved, _, _, _, _, deadline, _,
    inserted, isInserted, running, isRunning, audited, isAudited, _, _, rfl, rfl⟩ := returned
  have found := Database.requestContext_eq_some context
  obtain rfl := (Table.mem_of_lookup found).2
  obtain ⟨rfl, fresh⟩ := Database.insertExecution_eq_ok isInserted
  obtain rfl := Database.updateChangeRequest_eq_ok isRunning found
  obtain ⟨rfl, -⟩ := Database.appendAudit_eq_ok isAudited
  refine ⟨.started request _ supplies.now found approved rfl rfl fresh, _,
    List.mem_append_right _ (List.mem_singleton_self _), rfl, rfl⟩

theorem receiptFields_status (sha256 : String → String)
    (executionId requestId actorId adapter risk environment workspaceId : String)
    (status : ExecutionStatus) (output : Json) (completedAt : String)
    {extra : List (String × Json)} (known : extra = [] ∨ ∃ value, extra = [("outcome", value)]) :
    (Json.object (receiptFields sha256 executionId requestId actorId adapter risk environment
      workspaceId status output completedAt ++ extra)).get "status" = .str status.word := by
  have member : ("status", Json.str status.word) ∈ receiptFields sha256 executionId requestId
      actorId adapter risk environment workspaceId status output completedAt ++ extra := by
    simp [receiptFields]
  have distinct : ((receiptFields sha256 executionId requestId actorId adapter risk environment
      workspaceId status output completedAt ++ extra).map Prod.fst).Nodup := by
    rcases known with rfl | ⟨value, rfl⟩ <;> simp [receiptFields]
  exact Json.get_object_of_mem distinct member

/-- An execution leaves `RUNNING` together with its request, and with one receipt. -/
theorem finish_step {executionId : String} {condition : ExecutionRow → Bool}
    {change : ExecutionRow → ExecutionRow} {status : RequestStatus} {payload : Json}
    {entry : AuditEntry} {row : ExecutionRow} {receipt : ReceiptRow}
    {recorded updated receipted audited : Database} {request : ChangeRequestRow}
    {execution : ExecutionRow}
    (isRecorded : db.updateExecution executionId condition change = some (row, recorded))
    (isUpdated : recorded.updateChangeRequest request.id
      (ChangeRequestService.setStatus status supplies.now) = .ok updated)
    (isReceipted : updated.appendReceipt sha256 supplies.receipt executionId payload =
      .ok (receipt, receipted))
    (isAudited : receipted.appendAudit sha256 supplies.audit entry = .ok audited)
    (foundExecution : Table.lookup (·.id) db.executions executionId = some execution)
    (foundRequest : Table.lookup (·.id) db.changeRequests request.id = some request)
    (ofRequest : execution.requestId = request.id)
    (wasRunning : condition execution = true → execution.status = .running)
    (sameId : (change execution).id = execution.id)
    (sameRequest : (change execution).requestId = execution.requestId)
    (terminal : ((change execution).status = .succeeded ∧ status = .completed) ∨
      (((change execution).status = .failed ∨ (change execution).status = .interrupted) ∧
        status = .failed))
    (sameStatus : payload.get "status" = .str (change execution).status.word) :
    LifecycleStep sha256 db.lifecycle audited.lifecycle := by
  obtain ⟨old, foundOld, holds, rfl⟩ := Database.updateExecution_eq_some isRecorded
  obtain rfl : execution = old := by rwa [foundExecution, Option.some.injEq] at foundOld
  obtain rfl := Database.updateChangeRequest_eq_ok isUpdated foundRequest
  obtain ⟨rfl, ofExecution, rfl, fresh⟩ := Database.appendReceipt_eq_ok isReceipted
  obtain ⟨rfl, -⟩ := Database.appendAudit_eq_ok isAudited
  have identity : execution.id = executionId := (Table.mem_of_lookup foundExecution).2
  rw [← identity, ← sameId] at foundExecution ofExecution
  exact .finished request execution (change execution) receipt status supplies.now foundRequest
    foundExecution (wasRunning holds) ofRequest sameRequest terminal ofExecution sameStatus
    fun other member => (fresh other member).2.1

theorem complete_step {pending : PendingExecution} {outcome : AdapterOutcome} {recorded : Bool}
    (returned : complete sha256 supplies pending outcome db = .ok (recorded, next))
    (bound : ∀ execution, Table.lookup (·.id) db.executions pending.executionId = some execution →
      execution.requestId = pending.requestId)
    (requested : ∀ execution ∈ db.executions, ∃ request,
      Table.lookup (·.id) db.changeRequests execution.requestId = some request) :
    LifecycleStep sha256 db.lifecycle next.lifecycle := by
  simp only [complete] at returned
  split at returned
  · simp only [bind_eq_ok, pure_eq_ok, Prod.mk.injEq] at returned
    obtain ⟨_, _, _, rfl⟩ := returned
    exact .idle
  · next isRecorded =>
    simp only [bind_eq_ok, pure_eq_ok, Prod.mk.injEq] at returned
    obtain ⟨updated, isUpdated, ⟨receipt, receipted⟩, isReceipted, audited, isAudited, _, _, _,
      rfl⟩ := returned
    obtain ⟨execution, foundExecution, -, -⟩ := Database.updateExecution_eq_some isRecorded
    have ofRequest := bound execution foundExecution
    obtain ⟨request, foundRequest⟩ := requested execution (Table.mem_of_lookup foundExecution).1
    have requestId := (Table.mem_of_lookup foundRequest).2
    rw [← ofRequest, ← requestId] at isUpdated
    rw [← requestId] at foundRequest
    refine finish_step isRecorded isUpdated isReceipted isAudited foundExecution foundRequest
      requestId.symm (fun holds => ?_) rfl rfl ?_ ?_
    · simp only [decide_eq_true_eq] at holds
      exact holds.1
    · cases outcome with
      | returned output =>
          by_cases failed : output.lookup "success" = some (.bool false)
          · simp [AdapterOutcome.result, failed, completed]
          · simp [AdapterOutcome.result, failed, completed]
      | raised typeName message => simp [AdapterOutcome.result, completed]
    · have told := receiptFields_status sha256 pending.executionId pending.requestId
        pending.actorId pending.request.adapter pending.request.risk pending.request.environment
        pending.request.workspaceId outcome.result.1 outcome.result.2.1 supplies.now (.inl rfl)
      rwa [List.append_nil] at told

theorem recover_step {service : ExecutionService} {actorId executionId reason : String}
    {result : Unit}
    (returned : service.recover sha256 supplies actorId executionId reason db =
      .ok (result, next)) :
    LifecycleStep sha256 db.lifecycle next.lifecycle := by
  simp only [recover, bind_eq_ok, orRaise_eq_ok, raiseIf_eq_ok, not_not, pure_eq_ok,
    Prod.mk.injEq] at returned
  obtain ⟨_, _, _, _, execution, foundExecution, request, foundRequest, _, wasRunning, _, _, _, _,
    ⟨row, recorded⟩, isRecorded, updated, isUpdated, ⟨receipt, receipted⟩, isReceipted, audited,
    isAudited, _, _, _, rfl⟩ := returned
  have requestId := (Table.mem_of_lookup foundRequest).2
  rw [← requestId] at isUpdated foundRequest
  exact finish_step isRecorded isUpdated isReceipted isAudited foundExecution foundRequest
    requestId.symm (fun _ => wasRunning) rfl rfl (.inr ⟨.inr rfl, rfl⟩)
    (receiptFields_status sha256 _ _ _ _ _ _ _ _ _ _ (.inr ⟨_, rfl⟩))

end ExecutionService

end VoodooOne
