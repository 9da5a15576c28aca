import VoodooOne.Change.ApprovalPolicy
import VoodooOne.Evidence.Chain
import VoodooOne.Library.Transaction
import VoodooOne.Schema.Changes

/-!
# Change requests and approvals

A draft is submitted once, which fixes the digest of its content.  Reviewers other than the
requester decide it, each once, on exactly that content.  The service reads the request back after
each transaction; that read writes nothing and is left out.
-/

namespace VoodooOne

def RequestStatus.word : RequestStatus → String
  | .draft => "DRAFT"
  | .reviewRequired => "REVIEW_REQUIRED"
  | .approved => "APPROVED"
  | .denied => "DENIED"
  | .running => "RUNNING"
  | .completed => "COMPLETED"
  | .failed => "FAILED"

def ApprovalDecision.ofWord? : String → Option ApprovalDecision
  | "APPROVED" => some .approved
  | "DENIED" => some .denied
  | _ => none

def validAdapters : List String :=
  ["echo", "write_artifact", "run_validation", "github-create-ref", "github-read-ref"]

def maxChangePayloadBytes : Nat := 65536

/-- What one call receives from the identifier factories and the clocks, with the stamps of its
receipt and of its audit event, and an exception that interrupts its transaction. -/
structure CallSupplies where
  (newId now : String)
  (receipt audit : Stamp)
  fault : Except Raised Unit

def requireWorkspaceEnvironment (requestEnvironment workspaceEnvironment : String) :
    Except Raised Unit := do
  raiseIf (requestEnvironment ∉ validEnvironments ∨ workspaceEnvironment ∉ validEnvironments)
    ⟨.runtimeError, "change request environment boundary is invalid"⟩
  raiseIf (requestEnvironment ≠ workspaceEnvironment)
    ⟨.runtimeError, "change request environment does not match workspace"⟩

def ChangeRequestRow.reviewSubject (row : ChangeRequestRow) : Json :=
  .object [("schema", .str "change-request-review/v1"), ("workspace_id", .str row.workspaceId),
    ("title", .str row.title), ("description", .str row.description), ("risk", .str row.risk),
    ("environment", .str row.environment), ("adapter", .str row.adapter),
    ("payload", row.payload), ("requested_by", .str row.requestedBy)]

def reviewContentSha256 (sha256 : String → String) (row : ChangeRequestRow) :
    Except Raised String := do
  raiseIf (row.payload.keys = none)
    ⟨.runtimeError, "change request payload must be a JSON object"⟩
  return digestOf sha256 row.reviewSubject

structure ChangeRequestService where
  approvalPolicyCompatibilityEnabled : Bool
  approvalPolicyEvaluator : ApprovalPolicyEvaluator

namespace ChangeRequestService

variable (sha256 : String → String)

def draftRow (supplies : CallSupplies)
    (actorId workspaceId title description risk environment adapter : String) (payload : Json) :
    ChangeRequestRow where
  id := supplies.newId
  workspaceId
  title := strip title
  description := strip description
  risk
  environment
  adapter
  payload
  status := .draft
  requestedBy := actorId
  createdAt := supplies.now
  updatedAt := supplies.now
  reviewContentSha256 := none

def createChangeRequest (supplies : CallSupplies)
    (actorId workspaceId title description risk environment adapter : String) (payload : Json)
    (db : Database) : Except Raised (Unit × Database) := do
  raiseIf (risk ∉ validRisks) (valueError "unknown risk")
  raiseIf (environment ∉ validEnvironments) (valueError "unknown environment")
  raiseIf (adapter ∉ validAdapters) (valueError "adapter is not registered")
  raiseIf (maxChangePayloadBytes < (canonicalJson payload).utf8ByteSize)
    (valueError "change request payload exceeds the governed limit")
  let workspaceEnvironment ← orRaise ⟨.lookupError, "workspace not found"⟩
    (db.workspaceEnvironment workspaceId)
  raiseIf (workspaceEnvironment ≠ environment)
    (valueError "change request environment must match workspace environment")
  let inserted ← db.insertChangeRequest
    (draftRow supplies actorId workspaceId title description risk environment adapter payload)
  let audited ← inserted.appendAudit sha256 supplies.audit
    { actorId
      action := "change_request.create"
      targetType := "change_request"
      targetId := supplies.newId
      payload := .object [("risk", .str risk), ("environment", .str environment),
        ("adapter", .str adapter)] }
  supplies.fault
  return ((), audited)

def markSubmitted (digest now : String) (row : ChangeRequestRow) : ChangeRequestRow :=
  { row with reviewContentSha256 := some digest, status := .reviewRequired, updatedAt := now }

def submitChangeRequest (supplies : CallSupplies) (actorId requestId : String) (db : Database) :
    Except Raised (Unit × Database) := do
  let (row, workspaceEnvironment) ← orRaise ⟨.lookupError, "change request not found"⟩
    (db.requestContext requestId)
  requireWorkspaceEnvironment row.environment workspaceEnvironment
  raiseIf (row.status ≠ .draft) ⟨.runtimeError, "only a draft can be submitted"⟩
  raiseIf (row.reviewContentSha256 ≠ none)
    ⟨.runtimeError, "draft review content binding must be empty"⟩
  let digest ← reviewContentSha256 sha256 row
  let marked ← db.updateChangeRequest requestId (markSubmitted digest supplies.now)
  let audited ← marked.appendAudit sha256 supplies.audit
    { actorId
      action := "change_request.submit"
      targetType := "change_request"
      targetId := requestId
      payload := .object [("review_content_sha256", .str digest)] }
  supplies.fault
  return ((), audited)

def approvalPolicyDecision (service : ChangeRequestService) (row : ChangeRequestRow) :
    Except Raised ApprovalPolicyDecision := do
  let input : ApprovalPolicyInput := ⟨row.environment, row.risk⟩
  input.postInit
  if service.approvalPolicyCompatibilityEnabled then
    resolveCurrentApprovalPolicy input service.approvalPolicyEvaluator
  else return evaluateCurrentApprovalPolicy input

/-- The policy decision that an approval is checked against; a denial needs none. -/
def policyFor (service : ChangeRequestService) (row : ChangeRequestRow) :
    ApprovalDecision → Except Raised (Option ApprovalPolicyDecision)
  | .approved => do
      let decision ← service.approvalPolicyDecision row
      return some decision
  | .denied => .ok none

def countApproved (db : Database) (requestId : String) : Nat :=
  (db.approvals.filter fun row => row.requestId = requestId ∧ row.decision = .approved).length

/-- `change_requests.update_status` and its siblings. -/
def setStatus (status : RequestStatus) (now : String) (row : ChangeRequestRow) : ChangeRequestRow :=
  { row with status, updatedAt := now }

def nextStatus (db : Database) (requestId : String) : Option ApprovalPolicyDecision → RequestStatus
  | none => .denied
  | some policy =>
      if policy.requiredApprovals ≤ countApproved db requestId then .approved else .reviewRequired

def approvalRow (supplies : CallSupplies) (requestId actorId : String) (decision : ApprovalDecision)
    (reason reviewContentSha256 : String) : ApprovalRow where
  id := supplies.newId
  requestId
  approverId := actorId
  decision
  reason := strip reason
  reviewContentSha256 := some reviewContentSha256
  createdAt := supplies.now

/-- `approve_change_request`, with the decision in upper case as the call makes it. -/
def approveChangeRequest (service : ChangeRequestService) (supplies : CallSupplies)
    (actorId requestId decision reason : String) (db : Database) :
    Except Raised (Unit × Database) := do
  let verdict ← orRaise (valueError "decision must be APPROVED or DENIED")
    (ApprovalDecision.ofWord? decision)
  let (row, workspaceEnvironment) ← orRaise ⟨.lookupError, "change request not found"⟩
    (db.requestContext requestId)
  requireWorkspaceEnvironment row.environment workspaceEnvironment
  raiseIf (row.status ≠ .reviewRequired) ⟨.runtimeError, "request is not awaiting review"⟩
  raiseIf (row.requestedBy = actorId)
    ⟨.permissionError, "requester cannot approve their own change"⟩
  let stored ← orRaise ⟨.runtimeError, "request review content binding is missing"⟩
    row.reviewContentSha256
  let digest ← reviewContentSha256 sha256 row
  raiseIf (digest ≠ stored)
    ⟨.runtimeError, "request review content binding does not match persisted content"⟩
  let policy ← service.policyFor row verdict
  let decided ← catching [.databaseIntegrityError]
    ⟨.runtimeError, "approver already decided this request"⟩
    (db.insertApproval (approvalRow supplies requestId actorId verdict reason stored))
  let status := nextStatus decided requestId policy
  let updated ← decided.updateChangeRequest requestId (setStatus status supplies.now)
  let audited ← updated.appendAudit sha256 supplies.audit
    { actorId
      action := "change_request." ++ decision.toLower
      targetType := "change_request"
      targetId := requestId
      payload := .object ([("reason", .str reason), ("resulting_status", .str status.word),
        ("review_content_sha256", .str stored)] ++
          policy.elim [] fun policy => [("approval_policy", policy.toDict)]) }
  supplies.fault
  return ((), audited)

end ChangeRequestService

end VoodooOne
