import Mathlib.Data.Prod.Lex
import VoodooOne.Change.ApprovalPolicy
import VoodooOne.Foundation.Contract
import VoodooOne.Foundation.Texts
import VoodooOne.Library.UniqueNames

/-!
# Policy decision graphs

A snapshot of current facts is projected to a graph of nodes and edges, with the reasons that keep
the request from being executed.  Identifiers in a snapshot are any strings; ids of nodes that
coincide are numbered.
-/

namespace VoodooOne

structure ApprovalEvidence where
  (approvalId approverId decision : Text)
deriving DecidableEq

structure PermissionObservation where
  (executionActorId permissionName : Text)
  granted : Bool
deriving DecidableEq

/-- `ApprovalPolicyDecision`, as a caller may supply it. -/
structure SuppliedPolicyDecision where
  (policyVersion profile decision authorizationMode : Text)
  requiredApprovals : Int
  requiredPermissions : List Text
  distinctApproverIdentities : Int
  (requesterMayApprove stepUpRequired : Bool)
  reasonCodes : List Text
deriving DecidableEq

structure PolicyDecisionSnapshot where
  (requestId requesterId workspaceId workspaceEnvironment requestEnvironment : Option Text)
  (risk adapter requestedCapability payloadSha256 : Option Text)
  permissionObservation : Option PermissionObservation
  policyDecision : Option SuppliedPolicyDecision
  approvals : List ApprovalEvidence
  requestStatus : Option Text
  (emergencyStopActive productionEffectsEnabled : Option Bool)
  (executionId receiptId : Option Text)
  auditEventIds : List Text

def SuppliedPolicyDecision.ofDecision (decision : ApprovalPolicyDecision) :
    SuppliedPolicyDecision where
  policyVersion := .ofString decision.policyVersion
  profile := .ofString decision.profile
  decision := .ofString decision.decision
  authorizationMode := .ofString decision.authorizationMode
  requiredApprovals := decision.requiredApprovals
  requiredPermissions := decision.requiredPermissions.map .ofString
  distinctApproverIdentities := decision.distinctApproverIdentities
  requesterMayApprove := decision.requesterMayApprove
  stepUpRequired := decision.stepUpRequired
  reasonCodes := decision.reasonCodes.map .ofString

namespace Text

abbrev Among (text : Option Text) (words : List String) : Prop :=
  text ∈ words.map fun word => some (Text.ofString word)

end Text

abbrev ValidIdentifier (text : Text) : Prop :=
  text = text.strip ∧ 1 ≤ text.length ∧ text.length ≤ 256 ∧ .char (Char.ofNat 0) ∉ text

/-- `_valid_identifier` of an optional string. -/
abbrev HasIdentifier (text : Option Text) : Prop := ∃ value ∈ text, ValidIdentifier value

/-- A match of `_SHA256_PATTERN`. -/
abbrev DigestPattern (text : Text) : Prop :=
  text.length = 64 ∧ ∀ unit ∈ text, unit ∈ Text.ofString "0123456789abcdef"

/-- `_node_id`. -/
def policyNodeId (kind : String) (value : Option Text) : Text :=
  match value.filter fun text => ValidIdentifier text with
  | some text => .ofString (kind ++ ":") ++ text
  | none => .ofString (kind ++ ":missing")

def duplicateNodeId (candidate : Text) (number : Nat) : Text :=
  candidate ++ .ofString ("#duplicate-" ++ toString number)

structure PolicyNode where
  id : Text
  type : String
  claims : TextValue

structure PolicyEdge where
  source : Text
  relation : String
  target : Text

structure PolicyDecisionGraph where
  decision : String
  executionEligible : Bool
  (reasonCodes limitations : List Text)
  nodes : List PolicyNode
  edges : List PolicyEdge
  graphDigest : String

def TextValue.optional (text : Option Text) : TextValue := text.elim .null .str

/-- A JSON object with plain keys. -/
def TextValue.record (fields : List (String × TextValue)) : TextValue :=
  .obj (fields.map fun field => (.ofString field.1, field.2))

def SuppliedPolicyDecision.toDict (policy : SuppliedPolicyDecision) : TextValue :=
  .record [("policy_version", .str policy.policyVersion), ("profile", .str policy.profile),
    ("decision", .str policy.decision), ("authorization_mode", .str policy.authorizationMode),
    ("required_approvals", .int policy.requiredApprovals),
    ("required_permissions", .arr (policy.requiredPermissions.map .str)),
    ("distinct_approver_identities", .int policy.distinctApproverIdentities),
    ("requester_may_approve", .bool policy.requesterMayApprove),
    ("step_up_required", .bool policy.stepUpRequired),
    ("reason_codes", .arr (policy.reasonCodes.map .str))]

namespace PolicyDecisionSnapshot

variable (snapshot : PolicyDecisionSnapshot)

def permissionClaims : TextValue :=
  snapshot.permissionObservation.elim (.record []) fun observation =>
    .record [("execution_actor_id", .str observation.executionActorId),
      ("granted", .bool observation.granted),
      ("permission_name", .str observation.permissionName)]

def policyId : Text := policyNodeId "policy" (snapshot.policyDecision.map (·.policyVersion))

def baseNodes : List PolicyNode :=
  [⟨policyNodeId "subject" snapshot.requesterId, "subject",
      .record [("role", .str (.ofString "requester"))]⟩,
    ⟨policyNodeId "workspace" snapshot.workspaceId, "workspace",
      .record [("environment", .optional snapshot.workspaceEnvironment)]⟩,
    ⟨policyNodeId "request" snapshot.requestId, "request",
      .record [("adapter", .optional snapshot.adapter),
        ("capability", .optional snapshot.requestedCapability),
        ("environment", .optional snapshot.requestEnvironment),
        ("payload_sha256", .optional snapshot.payloadSha256), ("risk", .optional snapshot.risk),
        ("status", .optional snapshot.requestStatus)]⟩,
    ⟨snapshot.policyId, "policy",
      snapshot.policyDecision.elim (.record []) SuppliedPolicyDecision.toDict⟩,
    ⟨.ofString "permission:execution-observation", "permission_observation",
      snapshot.permissionClaims⟩,
    ⟨.ofString "runtime:current", "runtime_context",
      .record [("emergency_stop_active", snapshot.emergencyStopActive.elim .null .bool),
        ("production_effects_enabled", snapshot.productionEffectsEnabled.elim .null .bool)]⟩,
    ⟨policyNodeId "decision" snapshot.requestId, "projection",
      .record [("authority", .str (.ofString "NONE")), ("projection_only", .bool true)]⟩]

def baseEdges : List PolicyEdge :=
  let requestId := policyNodeId "request" snapshot.requestId
  let decisionId := policyNodeId "decision" snapshot.requestId
  let permissionId := Text.ofString "permission:execution-observation"
  [⟨policyNodeId "subject" snapshot.requesterId, "requests", requestId⟩,
    ⟨requestId, "targets", policyNodeId "workspace" snapshot.workspaceId⟩,
    ⟨requestId, "evaluated_under", snapshot.policyId⟩,
    ⟨permissionId, "observed_for", requestId⟩,
    ⟨decisionId, "projects", requestId⟩,
    ⟨decisionId, "observes", permissionId⟩,
    ⟨decisionId, "observes", .ofString "runtime:current"⟩]

def approvalKey (approval : ApprovalEvidence) : List Nat ×ₗ List Nat ×ₗ List Nat :=
  toLex (approval.approvalId.key, toLex (approval.approverId.key, approval.decision.key))

def sortedApprovals : List ApprovalEvidence :=
  snapshot.approvals.insertionSort fun left right => approvalKey left ≤ approvalKey right

/-- The candidate for the id of an approval's node. -/
def approvalCandidate (approval : ApprovalEvidence) (index : Nat) : Text :=
  if ValidIdentifier approval.approvalId then policyNodeId "approval" (some approval.approvalId)
  else .ofString ("approval:invalid-" ++ toString index)

def approvalNode (approval : ApprovalEvidence) (id : Text) : PolicyNode :=
  ⟨id, "approval", .record [("approval_id", .str approval.approvalId),
    ("approver_id", .str approval.approverId), ("decision", .str approval.decision)]⟩

def reasonIf (condition : Prop) [Decidable condition] (reason : String) : List String :=
  if condition then [reason] else []

/-- The reasons of the loop over approvals, given the ids that it has seen. -/
def approvalReasons (requesterId : Option Text) : List Text → List ApprovalEvidence → List String
  | _, [] => []
  | seen, approval :: approvals =>
      reasonIf (¬(ValidIdentifier approval.approvalId ∧ ValidIdentifier approval.approverId ∧
        Text.Among approval.decision ["APPROVED", "DENIED"] ∧ approval.approvalId ∉ seen))
        "PDG_APPROVAL_EVIDENCE_INVALID" ++
      reasonIf (some approval.approverId = requesterId) "PDG_REQUESTER_SELF_APPROVAL" ++
      reasonIf (approval.decision = .ofString "DENIED") "PDG_APPROVAL_DENIED" ++
      approvalReasons requesterId
        (if ValidIdentifier approval.approvalId then approval.approvalId :: seen else seen)
          approvals

/-- The approvals with decision `APPROVED`. -/
def approvedOnes (approvals : List ApprovalEvidence) : List ApprovalEvidence :=
  approvals.filter fun approval => approval.decision = .ofString "APPROVED"

def approvedIdentities (approvals : List ApprovalEvidence) : List Text :=
  (((approvedOnes approvals).map (·.approverId)).filter fun text => ValidIdentifier text).dedup

abbrev ValidPolicyDecision (policy : SuppliedPolicyDecision) : Prop :=
  ValidIdentifier policy.policyVersion ∧ ValidIdentifier policy.profile ∧
    ValidIdentifier policy.decision ∧ ValidIdentifier policy.authorizationMode ∧
    0 < policy.requiredApprovals ∧ policy.requiredPermissions ≠ [] ∧
    (∀ permission ∈ policy.requiredPermissions, ValidIdentifier permission) ∧
    0 < policy.distinctApproverIdentities ∧ policy.reasonCodes ≠ [] ∧
    ∀ code ∈ policy.reasonCodes, ValidIdentifier code

/-- `evaluate_current_approval_policy` of strings without surrogates. -/
def currentPolicy (environment risk : Text) : SuppliedPolicyDecision :=
  .ofDecision (evaluateCurrentApprovalPolicy ⟨(TextUnit.encode? environment).getD "",
    (TextUnit.encode? risk).getD ""⟩)

/-- `_validate_permission_observation`. -/
def permissionReasons : List String :=
  match snapshot.permissionObservation with
  | none => ["PDG_PERMISSION_OBSERVATION_MISSING"]
  | some observation =>
      reasonIf (¬ValidIdentifier observation.executionActorId) "PDG_EXECUTION_ACTOR_INVALID" ++
      (if ¬ValidIdentifier observation.permissionName then ["PDG_PERMISSION_NAME_INVALID"]
        else reasonIf (observation.permissionName ≠ .ofString "execution.run")
          "PDG_PERMISSION_NAME_MISMATCH") ++
      reasonIf (observation.granted = false) "PDG_PERMISSION_DENIED"

/-- The reasons about the policy's decision. -/
def policyReasons : List String :=
  match snapshot.policyDecision with
  | none => ["PDG_POLICY_DECISION_MISSING"]
  | some policy =>
      if ¬ValidPolicyDecision policy then ["PDG_POLICY_DECISION_INVALID"]
      else
        reasonIf (policy.decision ≠ .ofString "ALLOW_AFTER_AUTHORIZATION")
          "PDG_POLICY_DECISION_DENIED" ++
        match snapshot.requestEnvironment, snapshot.risk with
        | some environment, some risk =>
            reasonIf (Text.Among environment validEnvironments ∧ Text.Among risk validRisks ∧
              policy ≠ currentPolicy environment risk) "PDG_POLICY_DECISION_MISMATCH"
        | _, _ => []

/-- The reasons about the number of approvals, under a valid policy. -/
def countReasons : List String :=
  match snapshot.policyDecision.filter fun policy => ValidPolicyDecision policy with
  | none => []
  | some policy =>
      reasonIf ((approvedOnes snapshot.sortedApprovals).length < policy.requiredApprovals)
        "PDG_APPROVALS_INSUFFICIENT" ++
      reasonIf ((approvedIdentities snapshot.sortedApprovals).length <
        policy.distinctApproverIdentities) "PDG_DISTINCT_APPROVERS_INSUFFICIENT"

def validRequestStatuses : List String :=
  ["DRAFT", "REVIEW_REQUIRED", "APPROVED", "DENIED", "RUNNING", "COMPLETED", "FAILED"]

def statusReasons : List String :=
  if ¬Text.Among snapshot.requestStatus validRequestStatuses then ["PDG_REQUEST_STATUS_INVALID"]
  else reasonIf (snapshot.requestStatus ≠ some (.ofString "APPROVED")) "PDG_REQUEST_NOT_APPROVED"

def emergencyReasons : List String :=
  match snapshot.emergencyStopActive with
  | none => ["PDG_EMERGENCY_STOP_STATE_MISSING"]
  | some active => reasonIf (active = true) "PDG_EMERGENCY_STOP_ACTIVE"

def productionReasons : List String :=
  match snapshot.productionEffectsEnabled with
  | none => ["PDG_PRODUCTION_EFFECTS_STATE_MISSING"]
  | some enabled => reasonIf (snapshot.requestEnvironment = some (.ofString "production") ∧
      enabled = false) "PDG_PRODUCTION_EFFECTS_DISABLED"

/-- The reasons of a projection, in the order in which they are found. -/
def projectionReasons : List String :=
  reasonIf (¬(HasIdentifier snapshot.requestId ∧ HasIdentifier snapshot.requesterId ∧
    HasIdentifier snapshot.workspaceId ∧ HasIdentifier snapshot.adapter))
    "PDG_AUTHORITATIVE_IDENTITY_INVALID" ++
  reasonIf (¬Text.Among snapshot.workspaceEnvironment validEnvironments)
    "PDG_WORKSPACE_ENVIRONMENT_INVALID" ++
  reasonIf (¬Text.Among snapshot.requestEnvironment validEnvironments)
    "PDG_REQUEST_ENVIRONMENT_INVALID" ++
  reasonIf (Text.Among snapshot.workspaceEnvironment validEnvironments ∧
    Text.Among snapshot.requestEnvironment validEnvironments ∧
    snapshot.workspaceEnvironment ≠ snapshot.requestEnvironment)
    "PDG_WORKSPACE_ENVIRONMENT_MISMATCH" ++
  reasonIf (¬Text.Among snapshot.risk validRisks) "PDG_RISK_INVALID" ++
  reasonIf (¬∃ digest ∈ snapshot.payloadSha256, DigestPattern digest)
    "PDG_PAYLOAD_DIGEST_INVALID" ++
  snapshot.permissionReasons ++ snapshot.policyReasons ++
  approvalReasons snapshot.requesterId [] snapshot.sortedApprovals ++ snapshot.countReasons ++
  snapshot.statusReasons ++ snapshot.emergencyReasons ++ snapshot.productionReasons

/-- A reference of the decision to evidence: the candidate for its node's id, the node's type and
claims, and the relation. -/
structure EvidenceReference where
  candidate : Text
  type : String
  claims : TextValue
  relation : String

/-- The ids of audit events that are shown, in their order. -/
def sortedAuditEventIds : List Text :=
  Text.sorted (snapshot.auditEventIds.filter fun value => ValidIdentifier value)

/-- A reference to an execution or a receipt, where its id is valid. -/
def optionalReference (kind type relation : String) (value : Option Text) :
    List EvidenceReference :=
  if HasIdentifier value then [⟨policyNodeId kind value, type, .record [], relation⟩] else []

/-- The references of `_append_optional_evidence`, in their order. -/
def evidenceReferences : List EvidenceReference :=
  optionalReference "execution" "execution_reference" "references" snapshot.executionId ++
  optionalReference "receipt" "receipt_reference" "evidenced_by" snapshot.receiptId ++
  snapshot.sortedAuditEventIds.map fun value => ⟨policyNodeId "audit" (some value),
    "audit_reference", .record [("audit_event_id", .str value)], "evidenced_by"⟩

/-- The ids of the base nodes, which are in use from the start. -/
def baseIds : List Text := snapshot.baseNodes.map (·.id)

def approvalIds : List Text :=
  UniqueNames.assign duplicateNodeId snapshot.baseIds
    (snapshot.sortedApprovals.zipIdx.map fun item => approvalCandidate item.1 item.2)

/-- The nodes of `_approval_graph`. -/
def approvalNodes : List PolicyNode :=
  List.zipWith approvalNode snapshot.sortedApprovals snapshot.approvalIds

/-- The edges of `_approval_graph`. -/
def approvalEdges : List PolicyEdge :=
  snapshot.approvalIds.map fun id => ⟨id, "reviews", policyNodeId "request" snapshot.requestId⟩

def evidenceIds : List Text :=
  UniqueNames.assign duplicateNodeId (snapshot.baseIds ++ snapshot.approvalIds)
    (snapshot.evidenceReferences.map (·.candidate))

/-- The nodes of `_append_optional_evidence`. -/
def evidenceNodes : List PolicyNode :=
  List.zipWith (fun (reference : EvidenceReference) id => ⟨id, reference.type, reference.claims⟩)
    snapshot.evidenceReferences snapshot.evidenceIds

/-- The edges of `_append_optional_evidence`. -/
def evidenceEdges : List PolicyEdge :=
  List.zipWith (fun (reference : EvidenceReference) id =>
    ⟨policyNodeId "decision" snapshot.requestId, reference.relation, id⟩)
    snapshot.evidenceReferences snapshot.evidenceIds

/-- The key by which nodes are sorted; ids differ, so the claims never decide. -/
def nodeKey (node : PolicyNode) : List Nat ×ₗ List Nat :=
  toLex ((Text.ofString node.type).key, node.id.key)

def nodes : List PolicyNode :=
  (snapshot.baseNodes ++ snapshot.approvalNodes ++ snapshot.evidenceNodes).insertionSort
    fun left right => nodeKey left ≤ nodeKey right

def edgeKey (edge : PolicyEdge) : List Nat ×ₗ List Nat ×ₗ List Nat :=
  toLex (edge.source.key, toLex ((Text.ofString edge.relation).key, edge.target.key))

def edges : List PolicyEdge :=
  (snapshot.baseEdges ++ snapshot.approvalEdges ++ snapshot.evidenceEdges).insertionSort
    fun left right => edgeKey left ≤ edgeKey right

/-- `_LIMITATIONS`. -/
def fixedLimitations : List String :=
  ["Current approvals are not bound to the request payload digest.",
    "Current approvals are not bound to the approval policy version.",
    "Current approvals do not have an expiry binding.",
    "Requested capability is descriptive and is not independently validated by PDG v1.",
    "This read-only projection is not authorization and is not an execution gate."]

/-- An optional reference that is not shown. -/
abbrev OmitsReference : Prop :=
  (∃ value ∈ snapshot.executionId, ¬ValidIdentifier value) ∨
    (∃ value ∈ snapshot.receiptId, ¬ValidIdentifier value) ∨
    ∃ value ∈ snapshot.auditEventIds, ¬ValidIdentifier value

def limitations : List Text :=
  Text.sorted ((fixedLimitations ++ reasonIf snapshot.OmitsReference
    "One or more invalid optional evidence references were omitted.").map .ofString)

def policyReasonCodes : List Text :=
  (snapshot.policyDecision.filter fun policy => ValidPolicyDecision policy).elim [] (·.reasonCodes)

/-- Whether no reason keeps the request from being executed. -/
abbrev ExecutionEligible : Prop := snapshot.projectionReasons = []

def decision : String := if snapshot.ExecutionEligible then "ALLOW" else "DENY"

def reasonCodes : List Text :=
  let last := if snapshot.ExecutionEligible then "PDG_CURRENT_GATES_SATISFIED"
    else "PDG_DENY_BY_DEFAULT"
  Text.sorted (snapshot.policyReasonCodes ++
    ((snapshot.projectionReasons ++ [last]).dedup.map .ofString))

/-- The graph without its digest, as JSON. -/
def toValue : TextValue :=
  .record [("schema_version", .int 1), ("graph_type", .str (.ofString "policy-decision-graph/v1")),
    ("decision", .str (.ofString snapshot.decision)),
    ("execution_eligible", .bool (decide snapshot.ExecutionEligible)),
    ("reason_codes", .arr (snapshot.reasonCodes.map .str)),
    ("limitations", .arr (snapshot.limitations.map .str)),
    ("nodes", .arr (snapshot.nodes.map fun node => .record [("id", .str node.id),
      ("type", .str (.ofString node.type)), ("claims", node.claims)])),
    ("edges", .arr (snapshot.edges.map fun edge => .record [("from", .str edge.source),
      ("relation", .str (.ofString edge.relation)), ("to", .str edge.target)]))]

def graph (sha256 : String → String) (document : Json) : PolicyDecisionGraph where
  decision := snapshot.decision
  executionEligible := decide snapshot.ExecutionEligible
  reasonCodes := snapshot.reasonCodes
  limitations := snapshot.limitations
  nodes := snapshot.nodes
  edges := snapshot.edges
  graphDigest := digestOf sha256 document

/-- `project_policy_decision_graph`. -/
def project (sha256 : String → String) : Except Raised PolicyDecisionGraph := do
  raiseIf (¬(snapshot.nodes.map (·.id)).Nodup)
    ⟨.runtimeError, "policy decision graph node IDs are not unique"⟩
  let document ← orRaise (valueError "surrogates not allowed") snapshot.toValue.encode?
  return snapshot.graph sha256 document

end PolicyDecisionSnapshot

end VoodooOne
