import VoodooOne.Change.Execution
import VoodooOne.Foundation.Texts

/-!
# Recorded outcomes of adapters

An adapter may return or raise any Python text.  The transaction that completes its execution stores
the text as UTF-8, which has no form of half a surrogate pair: the transaction then fails as a
whole, and the execution stays `RUNNING`.
-/

namespace VoodooOne

/-- `is False`. -/
def TextValue.isFalse : TextValue → Bool
  | .bool false => true
  | _ => false

inductive AdapterReport where
  | returned (output : List (Text × TextValue))
  | raised (typeName message : Text)

namespace AdapterReport

/-- The report in the texts that the completing transaction stores, if UTF-8 has them: the output
of a success, or the name of an exception and the first 2000 characters of its message. -/
def encode? : AdapterReport → Option AdapterOutcome
  | .returned output =>
      if (output.lookup (.ofString "success")).any TextValue.isFalse then
        some (.returned [("success", .bool false)])
      else (TextValue.encodeFields? output).map .returned
  | .raised typeName message => do
      return .raised (← TextUnit.encode? typeName) (← TextUnit.encode? (message.take 2000))

end AdapterReport

namespace ExecutionService

variable (sha256 : String → String)

/-- `UnicodeEncodeError`, and the refusal of a very long integer. -/
def encodeError : Raised := valueError "surrogates not allowed"

/-- The second transaction of `execute_change_request`, on any report. -/
def completeReport (supplies : CallSupplies) (pending : PendingExecution) (report : AdapterReport)
    (db : Database) : Except Raised (Bool × Database) := do
  let outcome ← orRaise encodeError report.encode?
  complete sha256 supplies pending outcome db

/-- `execute_change_request`: the database after it, whatever it returns or raises. -/
def executeChangeRequest (service : ExecutionService) (early late : CallSupplies)
    (actorId requestId : String) (idempotencyKey : Option String) (report : AdapterReport)
    (db : Database) : Database :=
  match Transaction.commit (service.execute sha256 early actorId requestId idempotencyKey) db with
  | (.ok (.inr pending), started) =>
      (Transaction.commit (completeReport sha256 late pending report) started).2
  | (_, same) => same

end ExecutionService

theorem ExecutionStatus.action_succeeded :
    "execution." ++ ExecutionStatus.succeeded.word.toLower = "execution.succeeded" := by
  rw [word, ← String.toList_inj, String.toList_append, toList_toLower]
  rfl

theorem ExecutionStatus.action_failed :
    "execution." ++ ExecutionStatus.failed.word.toLower = "execution.failed" := by
  rw [word, ← String.toList_inj, String.toList_append, toList_toLower]
  rfl

theorem AdapterOutcome.result_ended (outcome : AdapterOutcome) :
    outcome.result.1 = .succeeded ∨ outcome.result.1 = .failed := by
  cases outcome with
  | returned output =>
      by_cases failed : output.lookup "success" = some (.bool false)
      · simp [AdapterOutcome.result, failed]
      · simp [AdapterOutcome.result, failed]
  | raised typeName message => exact .inr rfl

/-- An execution has ended, with one more receipt and one more audit event, both about it. -/
structure OutcomeRecorded (executionId : String) (started final : Database) : Prop where
  ended : ∃ execution, Table.lookup (·.id) final.executions executionId = some execution ∧
    (execution.status = .succeeded ∨ execution.status = .failed)
  receipt : ∃ receipt, final.receipts = started.receipts ++ [receipt] ∧
    receipt.executionId = executionId
  audit : ∃ event, final.auditEvents = started.auditEvents ++ [event] ∧
    event.targetId = executionId ∧
    (event.action = "execution.succeeded" ∨ event.action = "execution.failed")

def StillRunning (executionId : String) (db : Database) : Prop :=
  ∃ execution, Table.lookup (·.id) db.executions executionId = some execution ∧
    execution.status = .running

namespace PendingExecution

variable (sha256 : String → String) (supplies : CallSupplies) (pending : PendingExecution)
  (outcome : AdapterOutcome)

def receiptPayload : Json :=
  .object (ExecutionService.receiptFields sha256 pending.executionId pending.requestId
    pending.actorId pending.request.adapter pending.request.risk pending.request.environment
    pending.request.workspaceId outcome.result.1 outcome.result.2.1 supplies.now)

def auditEntry : AuditEntry where
  actorId := pending.actorId
  action := "execution." ++ outcome.result.1.word.toLower
  targetType := "execution"
  targetId := pending.executionId
  payload := .object [("request_id", .str pending.requestId),
    ("receipt_id", .str supplies.receipt.id), ("error", outcome.result.2.2.elim .null .str)]

/-- The database takes the records of an outcome: their keys are new, and it does not fail. -/
structure Accepted (db : Database) : Prop where
  receipt : (db.receiptRow sha256 supplies.receipt pending.executionId
    (pending.receiptPayload sha256 supplies outcome)).Fresh db
  audit : (db.auditRow sha256 supplies.audit (pending.auditEntry supplies outcome)).Fresh db
  fault : supplies.fault = .ok ()

structure Started (db : Database) : Prop where
  running : ∃ execution, Table.lookup (·.id) db.executions pending.executionId = some execution ∧
    execution.status = .running ∧ execution.fence = pending.fence
  request : ∃ request, Table.lookup (·.id) db.changeRequests pending.requestId = some request ∧
    ∀ digest ∈ request.reviewContentSha256, IsDigest digest

end PendingExecution

namespace ExecutionService

variable {sha256 : String → String} {service : ExecutionService} {supplies : CallSupplies}
  {pending : PendingExecution} {db next : Database}

theorem started_of_start {actorId requestId : String} {idempotencyKey : Option String}
    (returned : service.start sha256 supplies actorId requestId idempotencyKey db =
      .ok (pending, next)) : pending.Started next := by
  simp only [start, bind_eq_ok, orRaise_eq_ok, raiseIf_eq_ok, not_not, pure_eq_ok,
    Prod.mk.injEq] at returned
  obtain ⟨_, _, ⟨request, environment⟩, context, _, _, _, approved, _, _, _, _, deadline, _,
    inserted, isInserted, running, isRunning, audited, isAudited, _, _, rfl, rfl⟩ := returned
  have found := Database.requestContext_eq_some context
  obtain rfl := (Table.mem_of_lookup found).2
  obtain ⟨rfl, fresh⟩ := Database.insertExecution_eq_ok isInserted
  simp only [Database.updateChangeRequest, Database.setExecutions_changeRequests, found, bind_eq_ok,
    raiseIf_eq_ok, not_not, pure_eq_ok] at isRunning
  obtain ⟨_, guard, rfl⟩ := isRunning
  obtain ⟨rfl, -⟩ := Database.appendAudit_eq_ok isAudited
  refine ⟨⟨runningRow supplies request request.id idempotencyKey deadline, ?_, rfl, rfl⟩,
    ⟨ChangeRequestService.setStatus .running supplies.now request, ?_, guard.1⟩⟩
  · have missing : Table.lookup (·.id) db.executions supplies.newId = none :=
      Table.lookup_eq_none.mpr fresh
    change Table.lookup (·.id) (db.executions ++ [_]) supplies.newId = _
    rw [Table.lookup_append, missing, Option.none_or]
    exact if_pos rfl
  · exact Table.lookup_replace_self found rfl

def completion (sha256 : String → String) (supplies : CallSupplies) (pending : PendingExecution)
    (outcome : AdapterOutcome) (execution : ExecutionRow) (request : ChangeRequestRow)
    (db : Database) : Database :=
  let updated := (db.setExecutions (Table.replace (·.id) db.executions
    (completed outcome.result.1 outcome.result.2.1 outcome.result.2.2 supplies.now
      execution))).setChangeRequests (Table.replace (·.id) db.changeRequests
    (ChangeRequestService.setStatus
      (if outcome.result.1 = .succeeded then .completed else .failed) supplies.now request))
  let receipted := updated.setReceipts (db.receipts ++ [db.receiptRow sha256 supplies.receipt
    pending.executionId (pending.receiptPayload sha256 supplies outcome)])
  receipted.setAuditEvents (db.auditEvents ++
    [db.auditRow sha256 supplies.audit (pending.auditEntry supplies outcome)])

theorem complete_eq_ok {outcome : AdapterOutcome} {execution : ExecutionRow}
    {request : ChangeRequestRow} {recorded : Bool}
    (found : Table.lookup (·.id) db.executions pending.executionId = some execution)
    (running : execution.status = .running) (fence : execution.fence = pending.fence)
    (foundRequest : Table.lookup (·.id) db.changeRequests pending.requestId = some request)
    (digests : ∀ digest ∈ request.reviewContentSha256, IsDigest digest) :
    complete sha256 supplies pending outcome db = .ok (recorded, next) ↔
      recorded = true ∧ pending.Accepted sha256 supplies outcome db ∧
        next = completion sha256 supplies pending outcome execution request db := by
  have updated : db.updateExecution pending.executionId
      (fun row => row.status = .running ∧ row.fence = pending.fence)
      (completed outcome.result.1 outcome.result.2.1 outcome.result.2.2 supplies.now) =
      some (completed outcome.result.1 outcome.result.2.1 outcome.result.2.2 supplies.now execution,
        db.setExecutions (Table.replace (·.id) db.executions (completed outcome.result.1
          outcome.result.2.1 outcome.result.2.2 supplies.now execution))) := by
    simp [Database.updateExecution, found, running, fence]
  have guard (status : RequestStatus) (ended : status ≠ .reviewRequired) :
      ChangeRequestRow.UpdateGuard request
        (ChangeRequestService.setStatus status supplies.now request) :=
    ⟨digests, fun changed => absurd rfl changed, fun review => ended review.1⟩
  have requestUpdated : (if outcome.result.1 = .succeeded then RequestStatus.completed
      else .failed) ≠ .reviewRequired := by
    split <;> decide
  have foundCompleted : Table.lookup (·.id) (Table.replace (·.id) db.executions
      (completed outcome.result.1 outcome.result.2.1 outcome.result.2.2 supplies.now execution))
      pending.executionId = some _ :=
    Table.lookup_replace_self found (Table.mem_of_lookup found).2
  have kept := Table.mem_of_lookup foundCompleted
  simp only [complete, updated, Database.updateChangeRequest, Database.setExecutions_changeRequests,
    foundRequest, raiseIf_of_not (not_not.mpr (guard _ requestUpdated)), ok_bind, bind_eq_ok,
    pure_eq_ok, raiseIf_eq_ok, not_not, Database.appendReceipt, Database.appendAudit, Prod.mk.injEq]
  constructor
  · rintro ⟨_, rfl, _, ⟨_, receiptFresh, _, _, rfl⟩, _, ⟨_, auditFresh, rfl⟩, _, fault, rfl, rfl⟩
    exact ⟨rfl, ⟨receiptFresh, auditFresh, fault⟩, rfl⟩
  · rintro ⟨rfl, ⟨receiptFresh, auditFresh, fault⟩, rfl⟩
    exact ⟨_, rfl, _, ⟨(), receiptFresh, (), ⟨_, kept⟩, rfl⟩, _, ⟨(), auditFresh, rfl⟩, (), fault,
      rfl, rfl⟩

theorem completion_recorded {outcome : AdapterOutcome} {execution : ExecutionRow}
    {request : ChangeRequestRow}
    (found : Table.lookup (·.id) db.executions pending.executionId = some execution) :
    OutcomeRecorded pending.executionId db
      (completion sha256 supplies pending outcome execution request db) where
  ended := by
    refine ⟨_, Table.lookup_replace_self found (Table.mem_of_lookup found).2, ?_⟩
    exact outcome.result_ended
  receipt := ⟨_, rfl, rfl⟩
  audit := by
    refine ⟨_, rfl, rfl, ?_⟩
    change "execution." ++ outcome.result.1.word.toLower = _ ∨
      "execution." ++ outcome.result.1.word.toLower = _
    rcases outcome.result_ended with succeeded | failed
    · rw [succeeded]
      exact .inl ExecutionStatus.action_succeeded
    · rw [failed]
      exact .inr ExecutionStatus.action_failed

/-- The completing transaction records the report of a running execution, or changes nothing and
leaves it running. -/
theorem completeReport_recorded (started : pending.Started db) (report : AdapterReport) :
    let final := (Transaction.commit (completeReport sha256 supplies pending report) db).2
    (OutcomeRecorded pending.executionId db final ↔ ∃ outcome, report.encode? = some outcome ∧
      pending.Accepted sha256 supplies outcome db) ∧
    (¬OutcomeRecorded pending.executionId db final →
      final = db ∧ StillRunning pending.executionId final) := by
  obtain ⟨⟨execution, found, running, fence⟩, request, foundRequest, digests⟩ := started
  intro final
  by_cases recordable : ∃ outcome, report.encode? = some outcome ∧
      pending.Accepted sha256 supplies outcome db
  · obtain ⟨outcome, encoded, accepted⟩ := recordable
    have returned := (complete_eq_ok found running fence foundRequest digests).mpr
      ⟨rfl, accepted, rfl⟩
    have completes : completeReport sha256 supplies pending report db =
        .ok (true, completion sha256 supplies pending outcome execution request db) := by
      rw [completeReport, encoded]
      exact returned
    have same : final = completion sha256 supplies pending outcome execution request db := by
      change (Transaction.commit _ _).2 = _
      rw [Transaction.commit_of_ok completes]
    have held : OutcomeRecorded pending.executionId db final := same ▸ completion_recorded found
    exact ⟨⟨fun _ => ⟨outcome, encoded, accepted⟩, fun _ => held⟩, fun other => absurd held other⟩
  · have same : final = db := by
      refine Transaction.commit_cases (motive := fun next => next = db) _ _ rfl ?_
      intro recorded next returned
      simp only [completeReport, bind_eq_ok, orRaise_eq_ok] at returned
      obtain ⟨outcome, encoded, completes⟩ := returned
      obtain ⟨-, accepted, -⟩ :=
        (complete_eq_ok found running fence foundRequest digests).mp completes
      exact absurd ⟨outcome, encoded, accepted⟩ recordable
    have unrecorded : ¬OutcomeRecorded pending.executionId db final := by
      rintro ⟨-, ⟨receipt, longer, -⟩, -⟩
      rw [same] at longer
      exact List.cons_ne_nil _ _ (List.self_eq_append_right.mp longer)
    exact ⟨⟨fun held => absurd held unrecorded, fun held => absurd held recordable⟩,
      fun _ => ⟨same, execution, same ▸ found, running⟩⟩

end ExecutionService

/-- The call that starts an execution leaves its outcome recorded exactly when the texts of the
report can be stored and the database takes the records; otherwise it leaves the execution running.
A call that starts nothing changes nothing. -/
theorem outcome_recorded_iff (sha256 : String → String) (service : ExecutionService)
    (early late : CallSupplies) (actorId requestId : String) (idempotencyKey : Option String)
    (report : AdapterReport) (db : Database) :
    let final := service.executeChangeRequest sha256 early late actorId requestId idempotencyKey
      report db
    (∀ pending started,
      service.execute sha256 early actorId requestId idempotencyKey db =
          .ok (.inr pending, started) →
        (OutcomeRecorded pending.executionId started final ↔
          ∃ outcome, report.encode? = some outcome ∧ pending.Accepted sha256 late outcome started) ∧
        (¬OutcomeRecorded pending.executionId started final →
          StillRunning pending.executionId final)) ∧
      ((∀ pending started, service.execute sha256 early actorId requestId idempotencyKey db ≠
          .ok (.inr pending, started)) → final = db) := by
  intro final
  refine ⟨?_, ?_⟩
  · intro pending started returned
    have begun : pending.Started started := by
      simp only [ExecutionService.execute, bind_eq_ok] at returned
      obtain ⟨existing, -, returned⟩ := returned
      cases existing with
      | some executionId =>
          rw [pure_eq_ok] at returned
          cases returned
      | none =>
          simp only [bind_eq_ok, pure_eq_ok, Prod.mk.injEq, Sum.inr.injEq] at returned
          obtain ⟨⟨_, _⟩, isStarted, rfl, rfl⟩ := returned
          exact ExecutionService.started_of_start isStarted
    have same : final = (Transaction.commit (ExecutionService.completeReport sha256 late pending
        report) started).2 := by
      change ExecutionService.executeChangeRequest sha256 service early late actorId requestId
        idempotencyKey report db = _
      rw [ExecutionService.executeChangeRequest, Transaction.commit_of_ok returned]
    obtain ⟨recorded, otherwise⟩ := ExecutionService.completeReport_recorded begun report
    rw [same]
    exact ⟨recorded, fun unrecorded => (otherwise unrecorded).2⟩
  · intro unstarted
    change ExecutionService.executeChangeRequest sha256 service early late actorId requestId
      idempotencyKey report db = _
    cases reply : service.execute sha256 early actorId requestId idempotencyKey db with
    | error error => rw [ExecutionService.executeChangeRequest, Transaction.commit_of_error reply]
    | ok result =>
        obtain ⟨executionId | pending, next⟩ := result
        · rw [ExecutionService.executeChangeRequest, Transaction.commit_of_ok reply]
          simp only [ExecutionService.execute, bind_eq_ok] at reply
          obtain ⟨existing, -, returned⟩ := reply
          cases existing with
          | some found =>
              rw [pure_eq_ok, Prod.mk.injEq] at returned
              exact returned.2.symm
          | none =>
              simp only [bind_eq_ok, pure_eq_ok, Prod.mk.injEq] at returned
              obtain ⟨_, _, started, -⟩ := returned
              cases started
        · exact absurd reply (unstarted pending next)

namespace UnstoredMessage

def request : ChangeRequestRow where
  id := "req_1"
  workspaceId := "ws_1"
  title := "title"
  description := "description"
  risk := "low"
  environment := "staging"
  adapter := "run_validation"
  payload := .object [("preset", .str "frontend_build")]
  status := .approved
  requestedBy := "usr_1"
  createdAt := "2026-01-01T00:00:00.000+00:00"
  updatedAt := "2026-01-01T00:00:00.000+00:00"
  reviewContentSha256 := none

def db : Database :=
  (Database.empty.setWorkspaces
    [⟨"ws_1", "workspace", "staging", "2026-01-01T00:00:00.000+00:00"⟩]).setChangeRequests [request]

/-- A service whose leases end at one time. -/
def service : ExecutionService where
  productionEffectsEnabled := false
  executionLeaseSeconds := 60
  leaseDeadline _ _ := .ok "2026-01-01T00:02:00.000+00:00"
  leaseExpired _ _ := .ok false

def supplies : CallSupplies where
  newId := "exe_1"
  now := "2026-01-01T00:01:00.000+00:00"
  receipt := ⟨"rcp_1", "2026-01-01T00:01:00.000+00:00"⟩
  audit := ⟨"evt_1", "2026-01-01T00:01:00.000+00:00"⟩
  fault := .ok ()

theorem byteUnit_inRange : 1152 < 2048 := by decide

/-- The error text of a validation whose directory is missing; the name of the directory has a byte
that is not UTF-8. -/
def message : Text :=
  Text.ofString "validation working directory is missing: /srv/" ++
    TextUnit.surrogate ⟨1152, byteUnit_inRange⟩ :: Text.ofString "/frontend"

def report : AdapterReport := .raised (.ofString "AdapterError") message

theorem report_unstored : report.encode? = none := by
  have short : message.take 2000 = message := List.take_of_length_le (by decide)
  have half : ¬TextUnit.Plain message := fun plain =>
    plain 1152 (List.mem_append_right _ List.mem_cons_self)
  have refused : TextUnit.encode? message = none := by
    rwa [← TextUnit.encode?_isSome, Option.not_isSome_iff_eq_none] at half
  rw [report, AdapterReport.encode?, short, refused]
  cases TextUnit.encode? (.ofString "AdapterError") <;> rfl

theorem execution_started (sha256 : String → String) : ∃ started,
    service.execute sha256 supplies "usr_1" "req_1" none db =
      .ok (.inr ⟨"exe_1", "req_1", "usr_1", 1, request⟩, started) := by
  let row := ExecutionService.runningRow supplies request "req_1" none
    "2026-01-01T00:02:00.000+00:00"
  have inserted : db.insertExecution row = .ok (db.setExecutions [row]) := by
    have guard : row.InsertGuard db := by
      refine ⟨(fun _ member => by cases member), le_rfl, ⟨request, List.mem_singleton_self _, rfl⟩,
        ?_⟩
      rintro ⟨_, requestMember, -, _, workspaceMember, -, unbound⟩
      obtain rfl := List.mem_singleton.mp requestMember
      obtain rfl := List.mem_singleton.mp workspaceMember
      rcases unbound with unknown | different
      · exact unknown (by decide : "staging" ∈ validEnvironments)
      · exact different rfl
    simp only [Database.insertExecution, bind_eq_ok, raiseIf_eq_ok, not_not, pure_eq_ok]
    exact ⟨(), guard, rfl⟩
  have updated : (db.setExecutions [row]).updateChangeRequest "req_1"
      (ChangeRequestService.setStatus .running supplies.now) = .ok ((db.setExecutions
        [row]).setChangeRequests [ChangeRequestService.setStatus .running supplies.now
          request]) := by
    have found : Table.lookup (·.id) (db.setExecutions [row]).changeRequests "req_1" =
        some request := rfl
    have guard : ChangeRequestRow.UpdateGuard request
        (ChangeRequestService.setStatus .running supplies.now request) :=
      ⟨fun _ missing => absurd missing (Option.not_mem_none _), fun changed => absurd rfl changed,
        fun review => RequestStatus.noConfusion review.1⟩
    rw [Database.updateChangeRequest, found]
    simp only [bind_eq_ok, raiseIf_eq_ok, not_not, pure_eq_ok]
    exact ⟨(), guard, rfl⟩
  have started : ∃ next, service.start sha256 supplies "usr_1" "req_1" none db =
      .ok (⟨"exe_1", "req_1", "usr_1", 1, request⟩, next) := by
    simp only [ExecutionService.start, bind_eq_ok, orRaise_eq_ok, raiseIf_eq_ok, not_not,
      pure_eq_ok]
    exact ⟨_, (), fun never => Bool.noConfusion never, (request, "staging"), rfl, (), rfl, (), rfl,
      (),
      by decide, (), by decide, "2026-01-01T00:02:00.000+00:00", rfl, _, inserted, _, updated, _,
      Database.appendAudit_ok (fun _ member => by cases member), (), rfl, rfl⟩
  obtain ⟨next, started⟩ := started
  refine ⟨next, ?_⟩
  have fresh : ExecutionService.existingExecution db none "req_1" = .ok none := rfl
  rw [ExecutionService.execute, fresh, ok_bind]
  simp only [started, ok_bind]
  rfl

end UnstoredMessage

/-- The claim fails for a message with half a surrogate pair: the execution stays `RUNNING`. -/
theorem outcome_unrecorded : ¬∀ (sha256 : String → String) (service : ExecutionService)
    (early late : CallSupplies) (actorId requestId : String) (idempotencyKey : Option String)
    (report : AdapterReport) (db : Database) (pending : PendingExecution) (started : Database),
    service.execute sha256 early actorId requestId idempotencyKey db =
        .ok (.inr pending, started) →
      OutcomeRecorded pending.executionId started
        (service.executeChangeRequest sha256 early late actorId requestId idempotencyKey report
          db) := by
  intro recorded
  obtain ⟨started, returned⟩ := UnstoredMessage.execution_started id
  have held := recorded id UnstoredMessage.service UnstoredMessage.supplies UnstoredMessage.supplies
    "usr_1" "req_1" none UnstoredMessage.report UnstoredMessage.db _ started returned
  have raised : ExecutionService.completeReport id UnstoredMessage.supplies
      ⟨"exe_1", "req_1", "usr_1", 1, UnstoredMessage.request⟩ UnstoredMessage.report started =
      .error ExecutionService.encodeError := by
    rw [ExecutionService.completeReport, UnstoredMessage.report_unstored]
    rfl
  simp only [ExecutionService.executeChangeRequest, Transaction.commit_of_ok returned,
    Transaction.commit_of_error raised] at held
  obtain ⟨receipt, longer, -⟩ := held.receipt
  exact List.cons_ne_nil _ _ (List.self_eq_append_right.mp longer)

end VoodooOne
