import VoodooOne.Foundation.Clock

/-!
# Approval policy

The number of approvals that a change request needs depends on its environment.  An evaluator that
is supplied from outside must agree with the policy exactly.
-/

namespace VoodooOne

def validRisks : List String := ["R0", "R1", "R2", "R3", "R4"]

structure ApprovalPolicyInput where
  (environment risk : String)
deriving DecidableEq, Repr

def ApprovalPolicyInput.postInit (input : ApprovalPolicyInput) : Except Raised Unit := do
  raiseIf (input.environment ∉ validEnvironments) (valueError "unknown environment")
  raiseIf (input.risk ∉ validRisks) (valueError "unknown risk")

structure ApprovalPolicyDecision where
  (policyVersion profile decision authorizationMode : String)
  requiredApprovals : Nat
  requiredPermissions : List String
  distinctApproverIdentities : Nat
  (requesterMayApprove stepUpRequired : Bool)
  reasonCodes : List String
deriving DecidableEq, Repr

def ApprovalPolicyDecision.toDict (decision : ApprovalPolicyDecision) : Json :=
  .object [("policy_version", .str decision.policyVersion), ("profile", .str decision.profile),
    ("decision", .str decision.decision),
    ("authorization_mode", .str decision.authorizationMode),
    ("required_approvals", .int decision.requiredApprovals),
    ("required_permissions", .arr (decision.requiredPermissions.map .str)),
    ("distinct_approver_identities", .int decision.distinctApproverIdentities),
    ("requester_may_approve", .bool decision.requesterMayApprove),
    ("step_up_required", .bool decision.stepUpRequired),
    ("reason_codes", .arr (decision.reasonCodes.map .str))]

/-- `current_required_approvals`, in a valid environment. -/
def currentRequiredApprovals (environment : String) : Nat :=
  if environment = "production" then 2 else 1

def evaluateCurrentApprovalPolicy (input : ApprovalPolicyInput) : ApprovalPolicyDecision :=
  let production := input.environment = "production"
  { policyVersion := "approval-policy/current-v1"
    profile := "CURRENT_COMPATIBILITY"
    decision := "ALLOW_AFTER_AUTHORIZATION"
    authorizationMode := "INDEPENDENT_APPROVAL"
    requiredApprovals := currentRequiredApprovals input.environment
    requiredPermissions := ["approval.review"]
    distinctApproverIdentities := currentRequiredApprovals input.environment
    requesterMayApprove := false
    stepUpRequired := false
    reasonCodes := ["CURRENT_BEHAVIOR_COMPATIBILITY",
        "ENVIRONMENT_" ++ input.environment.toUpper,
        input.risk ++ "_CURRENTLY_NON_ENFORCING",
        "REQUESTER_SELF_APPROVAL_DENIED",
        if production then "PRODUCTION_TWO_APPROVALS_REQUIRED"
        else "NON_PRODUCTION_ONE_APPROVAL_REQUIRED"] ++
      if production then ["PRODUCTION_EFFECTS_USE_SEPARATE_FAIL_CLOSED_GATE"] else [] }

/-- A supplied evaluator; `none` is an answer that is no decision. -/
abbrev ApprovalPolicyEvaluator := ApprovalPolicyInput →
    Except Raised (Option ApprovalPolicyDecision)

def resolveCurrentApprovalPolicy (input : ApprovalPolicyInput)
    (evaluator : ApprovalPolicyEvaluator) : Except Raised ApprovalPolicyDecision := do
  let decision ← evaluator input
  raiseIf (decision ≠ some (evaluateCurrentApprovalPolicy input))
    ⟨.approvalPolicyCompatibilityError,
      "approval policy evaluator diverged from current runtime behavior"⟩
  return evaluateCurrentApprovalPolicy input

end VoodooOne
