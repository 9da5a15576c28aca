import VoodooOne.Schema.Tables

/-!
# Change tables

Keys, references and triggers of `change_requests`, `approvals` and `executions`.  The statements of
the product set a request's status, review digest and time, and no other column of it.
-/

namespace VoodooOne

namespace Database

def workspaceEnvironment (db : Database) (workspaceId : String) : Option String :=
  (Table.lookup (·.id) db.workspaces workspaceId).map (·.environment)

/-- A request joined with the environment of its workspace. -/
def requestContext (db : Database) (requestId : String) : Option (ChangeRequestRow × String) := do
  let request ← Table.lookup (·.id) db.changeRequests requestId
  let environment ← db.workspaceEnvironment request.workspaceId
  return (request, environment)

theorem requestContext_eq_some {db : Database} {requestId environment : String}
    {request : ChangeRequestRow}
    (found : db.requestContext requestId = some (request, environment)) :
    Table.lookup (·.id) db.changeRequests requestId = some request := by
  simp only [requestContext, Option.bind_eq_bind, Option.pure_def, Option.bind_eq_some_iff,
    Option.some.injEq, Prod.mk.injEq] at found
  obtain ⟨_, isRequest, _, _, rfl, _⟩ := found
  exact isRequest

end Database

namespace ChangeRequestRow

/-- The columns under the review digest. -/
def content (row : ChangeRequestRow) :
    String × String × String × String × String × String × Json × String :=
  (row.workspaceId, row.title, row.description, row.risk, row.environment, row.adapter,
    row.payload, row.requestedBy)

/-- Column checks and triggers of an insertion. -/
abbrev InsertGuard (row : ChangeRequestRow) (db : Database) : Prop :=
  EnvironmentColumn row.environment ∧ (∃ workspace ∈ db.workspaces, workspace.id = row.workspaceId ∧
      workspace.environment = row.environment) ∧
    row.reviewContentSha256 = none ∧ db.HasUser row.requestedBy

/-- Column check and triggers of an update of status, review digest and time. -/
abbrev UpdateGuard (old new : ChangeRequestRow) : Prop :=
  (∀ digest ∈ new.reviewContentSha256, IsDigest digest) ∧
    (old.reviewContentSha256 ≠ new.reviewContentSha256 →
      old.status = .draft ∧ new.status = .reviewRequired ∧ old.reviewContentSha256 = none ∧
        new.reviewContentSha256 ≠ none) ∧
    ¬(new.status = .reviewRequired ∧ new.reviewContentSha256 = none)

end ChangeRequestRow

namespace Database

/-- `change_requests.insert`. -/
def insertChangeRequest (db : Database) (row : ChangeRequestRow) : Except Raised Database := do
  raiseIf (¬∀ other ∈ db.changeRequests, other.id ≠ row.id) integrityError
  raiseIf (¬row.InsertGuard db) integrityError
  return db.setChangeRequests (db.changeRequests ++ [row])

/-- An update of the request with an identifier; without such a request nothing happens. -/
def updateChangeRequest (db : Database) (requestId : String)
    (change : ChangeRequestRow → ChangeRequestRow) : Except Raised Database :=
  match Table.lookup (·.id) db.changeRequests requestId with
  | none => .ok db
  | some old => do
      raiseIf (¬ChangeRequestRow.UpdateGuard old (change old)) integrityError
      return db.setChangeRequests (Table.replace (·.id) db.changeRequests (change old))

theorem insertChangeRequest_eq_ok {db next : Database} {row : ChangeRequestRow}
    (inserted : db.insertChangeRequest row = .ok next) :
    next = db.setChangeRequests (db.changeRequests ++ [row]) ∧
      ∀ other ∈ db.changeRequests, other.id ≠ row.id := by
  simp only [insertChangeRequest, bind_eq_ok, raiseIf_eq_ok, not_not, pure_eq_ok] at inserted
  obtain ⟨_, fresh, _, _, rfl⟩ := inserted
  exact ⟨rfl, fresh⟩

theorem updateChangeRequest_eq_ok {db next : Database} {requestId : String}
    {change : ChangeRequestRow → ChangeRequestRow} {old : ChangeRequestRow}
    (updated : db.updateChangeRequest requestId change = .ok next)
    (found : Table.lookup (·.id) db.changeRequests requestId = some old) :
    next = db.setChangeRequests (Table.replace (·.id) db.changeRequests (change old)) := by
  simp only [updateChangeRequest, found, bind_eq_ok, raiseIf_eq_ok, pure_eq_ok] at updated
  obtain ⟨_, _, rfl⟩ := updated
  rfl

end Database

/-- Keys, references and trigger of `approvals`; its rows are never updated or deleted. -/
abbrev ApprovalRow.InsertGuard (row : ApprovalRow) (db : Database) : Prop :=
  (∀ other ∈ db.approvals, other.id ≠ row.id ∧
      ¬(other.requestId = row.requestId ∧ other.approverId = row.approverId)) ∧
    db.HasUser row.approverId ∧ row.reviewContentSha256 ≠ none ∧
    ∃ request ∈ db.changeRequests, request.id = row.requestId ∧
      request.status = .reviewRequired ∧ request.reviewContentSha256 = row.reviewContentSha256

/-- `approvals.insert`. -/
def Database.insertApproval (db : Database) (row : ApprovalRow) : Except Raised Database := do
  raiseIf (¬row.InsertGuard db) integrityError
  return db.setApprovals (db.approvals ++ [row])

theorem Database.insertApproval_eq_ok {db next : Database} {row : ApprovalRow}
    (inserted : db.insertApproval row = .ok next) :
    next = db.setApprovals (db.approvals ++ [row]) ∧ row.InsertGuard db := by
  simp only [Database.insertApproval, bind_eq_ok, raiseIf_eq_ok, not_not, pure_eq_ok] at inserted
  obtain ⟨_, guard, rfl⟩ := inserted
  exact ⟨rfl, guard⟩

/-- Keys, references and trigger of `executions`; a missing idempotency key equals no other. -/
abbrev ExecutionRow.InsertGuard (row : ExecutionRow) (db : Database) : Prop :=
  (∀ other ∈ db.executions, other.id ≠ row.id ∧
      ¬(row.idempotencyKey ≠ none ∧ other.idempotencyKey = row.idempotencyKey)) ∧
    1 ≤ row.fence ∧ db.HasChangeRequest row.requestId ∧
    ¬∃ request ∈ db.changeRequests, request.id = row.requestId ∧
      ∃ workspace ∈ db.workspaces, workspace.id = request.workspaceId ∧
        (request.environment ∉ validEnvironments ∨ request.environment ≠ workspace.environment)

/-- `executions.insert`. -/
def Database.insertExecution (db : Database) (row : ExecutionRow) : Except Raised Database := do
  raiseIf (¬row.InsertGuard db) integrityError
  return db.setExecutions (db.executions ++ [row])

theorem Database.insertExecution_eq_ok {db next : Database} {row : ExecutionRow}
    (inserted : db.insertExecution row = .ok next) :
    next = db.setExecutions (db.executions ++ [row]) ∧
      ∀ other ∈ db.executions, other.id ≠ row.id := by
  simp only [Database.insertExecution, bind_eq_ok, raiseIf_eq_ok, not_not, pure_eq_ok] at inserted
  obtain ⟨_, guard, rfl⟩ := inserted
  exact ⟨rfl, fun other member => (guard.1 other member).1⟩

/-- An update of the execution with an identifier under a condition, with `RETURNING`. -/
def Database.updateExecution (db : Database) (executionId : String)
    (condition : ExecutionRow → Bool) (change : ExecutionRow → ExecutionRow) :
    Option (ExecutionRow × Database) :=
  match Table.lookup (·.id) db.executions executionId with
  | none => none
  | some old =>
      if condition old then
        some (change old, db.setExecutions (Table.replace (·.id) db.executions (change old)))
      else none

theorem Database.updateExecution_eq_some {db next : Database} {executionId : String}
    {condition : ExecutionRow → Bool} {change : ExecutionRow → ExecutionRow} {row : ExecutionRow}
    (updated : db.updateExecution executionId condition change = some (row, next)) :
    ∃ old, Table.lookup (·.id) db.executions executionId = some old ∧ condition old = true ∧
      next = db.setExecutions (Table.replace (·.id) db.executions (change old)) := by
  unfold Database.updateExecution at updated
  split at updated
  · cases updated
  · next old found =>
    split at updated
    · next holds =>
      cases updated
      exact ⟨old, found, holds, rfl⟩
    · cases updated

end VoodooOne
