import VoodooOne.Authorization.Snapshot
import VoodooOne.Foundation.Interpreter
import VoodooOne.Library.Window

/-!
# Monotonic authority

A derived authority must not be wider than the scope that it is derived from.  The check reports
each dimension in which it is.
-/

namespace VoodooOne

open Calendar

/-- What a scope and a constraint both bind. -/
structure AuthorityBindings where
  (actorId workspaceId environment capability capabilityDefinitionIdentity : String)
  (targetKind targetDigest payloadDigest policyVersion policyIdentity : String)
  (approvalSetDigest requiredPermission validFrom validUntil : String)
deriving DecidableEq, Repr

/-- One of `_EXACT_BINDINGS`. -/
inductive ExactBinding where
  | actorId
  | workspaceId
  | environment
  | capability
  | capabilityDefinitionIdentity
  | targetKind
  | targetDigest
  | payloadDigest
  | policyVersion
  | policyIdentity
  | approvalSetDigest
  | requiredPermission
deriving DecidableEq, Repr

namespace ExactBinding

def exactBindings : List ExactBinding :=
  [actorId, workspaceId, environment, capability, capabilityDefinitionIdentity, targetKind,
    targetDigest, payloadDigest, policyVersion, policyIdentity, approvalSetDigest,
    requiredPermission]

theorem mem_exactBindings (binding : ExactBinding) : binding ∈ exactBindings := by
  cases binding <;> decide

def field : ExactBinding → String
  | actorId => "actor_id"
  | workspaceId => "workspace_id"
  | environment => "environment"
  | capability => "capability"
  | capabilityDefinitionIdentity => "capability_definition_identity"
  | targetKind => "target_kind"
  | targetDigest => "target_digest"
  | payloadDigest => "payload_digest"
  | policyVersion => "policy_version"
  | policyIdentity => "policy_identity"
  | approvalSetDigest => "approval_set_digest"
  | requiredPermission => "required_permission"

def of (bindings : AuthorityBindings) : ExactBinding → String
  | actorId => bindings.actorId
  | workspaceId => bindings.workspaceId
  | environment => bindings.environment
  | capability => bindings.capability
  | capabilityDefinitionIdentity => bindings.capabilityDefinitionIdentity
  | targetKind => bindings.targetKind
  | targetDigest => bindings.targetDigest
  | payloadDigest => bindings.payloadDigest
  | policyVersion => bindings.policyVersion
  | policyIdentity => bindings.policyIdentity
  | approvalSetDigest => bindings.approvalSetDigest
  | requiredPermission => bindings.requiredPermission

end ExactBinding

namespace AuthorityBindings

def fields (bindings : AuthorityBindings) : List (String × Json) :=
  (ExactBinding.exactBindings.map fun binding => (binding.field, .str (binding.of bindings))) ++
    [("valid_from", .str bindings.validFrom), ("valid_until", .str bindings.validUntil)]

def fieldNames : List String :=
  ExactBinding.exactBindings.map ExactBinding.field ++ ["valid_from", "valid_until"]

def ofAttributes (self : Attributes) : AuthorityBindings where
  actorId := self.text "actor_id"
  workspaceId := self.text "workspace_id"
  environment := self.text "environment"
  capability := self.text "capability"
  capabilityDefinitionIdentity := self.text "capability_definition_identity"
  targetKind := self.text "target_kind"
  targetDigest := self.text "target_digest"
  payloadDigest := self.text "payload_digest"
  policyVersion := self.text "policy_version"
  policyIdentity := self.text "policy_identity"
  approvalSetDigest := self.text "approval_set_digest"
  requiredPermission := self.text "required_permission"
  validFrom := self.text "valid_from"
  validUntil := self.text "valid_until"

/-- The fields that both contracts check to be texts. -/
def textFields : List String :=
  ["actor_id", "workspace_id", "environment", "capability", "capability_definition_identity",
    "target_kind", "policy_version", "required_permission"]

/-- The fields that both contracts check to be digests. -/
def digestFields : List String :=
  ["target_digest", "payload_digest", "policy_identity", "approval_set_digest"]

def permissionCheck : AttributeCheck :=
  .equals "required_permission" requiredExecutionPermission
    "required_permission must be execution.run"

def requireInterval (bindings : AuthorityBindings) : Except Raised Unit := do
  let start ← requireTimestamp (.str bindings.validFrom) "valid_from"
  let stop ← requireTimestamp (.str bindings.validUntil) "valid_until"
  raiseIf (stop ≤ start) (valueError "authority validity interval must be positive")

structure Spans (bindings : AuthorityBindings) (window : Window Instant) : Prop where
  validFrom : bindings.validFrom = window.start.isoformat ∧ ValidText window.start.isoformat
  validUntil : bindings.validUntil = window.stop.isoformat ∧ ValidText window.stop.isoformat

theorem requireInterval_eq_ok {bindings : AuthorityBindings} {result : Unit} :
    bindings.requireInterval = .ok result ↔ ∃ window, bindings.Spans window := by
  simp only [requireInterval, bind_eq_ok, requireTimestamp_eq_ok, raiseIf_eq_ok, not_le,
    Json.str.injEq]
  constructor
  · rintro ⟨start, isStart, stop, isStop, positive⟩
    exact ⟨⟨start, stop, positive⟩, isStart, isStop⟩
  · rintro ⟨window, isStart, isStop⟩
    exact ⟨window.start, isStart, window.stop, isStop, window.nonempty⟩

theorem Spans.unique {bindings : AuthorityBindings} {left right : Window Instant}
    (spans : bindings.Spans left) (again : bindings.Spans right) : left = right := by
  have starts := Instant.isoformat_injective (spans.validFrom.1.symm.trans again.validFrom.1)
  have stops := Instant.isoformat_injective (spans.validUntil.1.symm.trans again.validUntil.1)
  cases left
  cases right
  simp_all

end AuthorityBindings

structure AuthorityScope extends AuthorityBindings where
  (authorizationSnapshotDigest scopeDigest : String)
deriving DecidableEq, Repr

namespace AuthorityScope

def contract : Contract AuthorityScope where
  contractType := "authority-scope/v1"
  typeField := "scope_type"
  digestField := "scope_digest"
  mismatch := "scope_digest does not match authority scope"
  attributes := ("authorization_snapshot_digest" :: AuthorityBindings.fieldNames).map
    fun field => (field, .text)
  checks :=
    requireDigests ["authorization_snapshot_digest"] ++ requireTexts AuthorityBindings.textFields ++
    requireDigests (AuthorityBindings.digestFields ++ ["scope_digest"]) ++
    [AuthorityBindings.permissionCheck, .timestamp "valid_from", .timestamp "valid_until"]
  ofAttributes self := { AuthorityBindings.ofAttributes self with
    authorizationSnapshotDigest := self.text "authorization_snapshot_digest"
    scopeDigest := self.text "scope_digest" }
  claims scope :=
    ("authorization_snapshot_digest", .str scope.authorizationSnapshotDigest) :: scope.fields
  digest := scopeDigest
  withDigest scope digest := { scope with scopeDigest := digest }
  check _ scope := scope.requireInterval

theorem lawful : contract.Lawful where
  ofAttributes_eq self scope digest same := by
    simp only [contract, AuthorityBindings.fields, ExactBinding.exactBindings, ExactBinding.field,
      ExactBinding.of, List.map_cons, List.map_nil, List.cons_append, List.nil_append,
      List.forall_mem_cons] at same
    simp [contract, AuthorityBindings.ofAttributes, Attributes.text, Json.text?, same]

def fromSnapshot (sha256 : String → String) (snapshot : AuthorizationSnapshot) :
    Except Raised AuthorityScope :=
  contract.create sha256 {
    actorId := snapshot.actorId
    workspaceId := snapshot.workspaceId
    environment := snapshot.environment
    capability := snapshot.capability
    capabilityDefinitionIdentity := snapshot.capabilityDefinitionIdentity
    targetKind := snapshot.targetKind
    targetDigest := snapshot.targetDigest
    payloadDigest := snapshot.payloadDigest
    policyVersion := snapshot.policyVersion
    policyIdentity := snapshot.policyIdentity
    approvalSetDigest := snapshot.approvalSetDigest
    requiredPermission := requiredExecutionPermission
    validFrom := snapshot.authorizedAt
    validUntil := snapshot.approvalValidUntil
    authorizationSnapshotDigest := snapshot.snapshotDigest
    scopeDigest := "" }

end AuthorityScope

structure AuthorityConstraint extends AuthorityBindings where
  (parentScopeDigest useSemantics constraintDigest : String)
deriving DecidableEq, Repr

namespace AuthorityConstraint

def contract : Contract AuthorityConstraint where
  contractType := "authority-constraint/v1"
  typeField := "constraint_type"
  digestField := "constraint_digest"
  mismatch := "constraint_digest does not match authority constraint"
  attributes := ("parent_scope_digest" :: AuthorityBindings.fieldNames ++ ["use_semantics"]).map
    fun field => (field, .text)
  checks :=
    requireDigests ["parent_scope_digest"] ++ requireTexts AuthorityBindings.textFields ++
    requireDigests (AuthorityBindings.digestFields ++ ["constraint_digest"]) ++
    [AuthorityBindings.permissionCheck,
      .equals "use_semantics" oneTimeUse "use_semantics must be ONE_TIME",
      .timestamp "valid_from", .timestamp "valid_until"]
  ofAttributes self := { AuthorityBindings.ofAttributes self with
    parentScopeDigest := self.text "parent_scope_digest"
    useSemantics := self.text "use_semantics"
    constraintDigest := self.text "constraint_digest" }
  claims constraint := ("parent_scope_digest", .str constraint.parentScopeDigest) ::
    constraint.fields ++ [("use_semantics", .str constraint.useSemantics)]
  digest := constraintDigest
  withDigest constraint digest := { constraint with constraintDigest := digest }
  check _ constraint := constraint.requireInterval

theorem lawful : contract.Lawful where
  ofAttributes_eq self constraint digest same := by
    simp only [contract, AuthorityBindings.fields, ExactBinding.exactBindings, ExactBinding.field,
      ExactBinding.of, List.map_cons, List.map_nil, List.cons_append, List.nil_append,
      List.forall_mem_cons] at same
    simp [contract, AuthorityBindings.ofAttributes, Attributes.text, Json.text?, same]

/-- `from_scope`; an empty bound is that of the scope. -/
def fromScope (sha256 : String → String) (scope : AuthorityScope)
    (validFrom validUntil : Option String) : Except Raised AuthorityConstraint :=
  let orOwn (given : Option String) (own : String) : String :=
    match given with
    | none => own
    | some text => if text = "" then own else text
  contract.create sha256 { scope.toAuthorityBindings with
    validFrom := orOwn validFrom scope.validFrom
    validUntil := orOwn validUntil scope.validUntil
    parentScopeDigest := scope.scopeDigest
    useSemantics := oneTimeUse
    constraintDigest := "" }

end AuthorityConstraint

/-- `MonotonicAuthorityViolation`: its reason codes are sorted and distinct, and there is one. -/
structure MonotonicAuthorityViolation where
  reasonCodes : List String
  sorted : reasonCodes.Pairwise (· ≤ ·)
  distinct : reasonCodes.Nodup
  nonempty : reasonCodes ≠ []

namespace MonotonicAuthorityViolation

/-- The constructor, of a first and of further reason codes. -/
def ofCodes (first : String) (rest : List String) : MonotonicAuthorityViolation where
  reasonCodes := sortedNames (first :: rest).dedup
  sorted := List.pairwise_insertionSort _ _
  distinct := (List.perm_insertionSort _ _).nodup_iff.mpr (List.nodup_dedup _)
  nonempty := List.ne_nil_of_mem
    ((List.mem_insertionSort _).mpr (List.mem_dedup.mpr (List.mem_cons_self ..)))

@[simp] theorem mem_ofCodes {first code : String} {rest : List String} :
    code ∈ (ofCodes first rest).reasonCodes ↔ code ∈ first :: rest := by
  simp only [ofCodes, sortedNames, List.mem_insertionSort, List.mem_dedup]

def raised (violation : MonotonicAuthorityViolation) : Raised :=
  ⟨.monotonicAuthorityViolation,
    "monotonic authority denied: " ++ ",".intercalate violation.reasonCodes⟩

end MonotonicAuthorityViolation

structure MonotonicAuthorityDecision where
  (parentScopeDigest childConstraintDigest relation decisionDigest : String)
deriving DecidableEq, Repr

def narrowOrEqual : String := "NARROW_OR_EQUAL"

namespace MonotonicAuthorityDecision

def claimsWithoutDigest (decision : MonotonicAuthorityDecision) : Json :=
  .object [("schema_version", .int 1), ("decision_type", .str "monotonic-authority-decision/v1"),
    ("parent_scope_digest", .str decision.parentScopeDigest),
    ("child_constraint_digest", .str decision.childConstraintDigest),
    ("relation", .str decision.relation)]

def postInit (sha256 : String → String) (decision : MonotonicAuthorityDecision) :
    Except Raised Unit := do
  let _ ← requireDigest (.str decision.parentScopeDigest) "parent_scope_digest"
  let _ ← requireDigest (.str decision.childConstraintDigest) "child_constraint_digest"
  raiseIf (decision.relation ≠ narrowOrEqual) (valueError "relation must be NARROW_OR_EQUAL")
  raiseIf (decision.decisionDigest ≠ digestOf sha256 decision.claimsWithoutDigest)
    (valueError "decision_digest does not match monotonic authority decision")

def create (sha256 : String → String) (parentScopeDigest childConstraintDigest : String) :
    Except Raised MonotonicAuthorityDecision := do
  let draft : MonotonicAuthorityDecision :=
    ⟨parentScopeDigest, childConstraintDigest, narrowOrEqual, ""⟩
  let decision := { draft with decisionDigest := digestOf sha256 draft.claimsWithoutDigest }
  decision.postInit sha256
  return decision

theorem create_eq_ok {sha256 : String → String} {parentScopeDigest childConstraintDigest : String} :
    (∃ decision, create sha256 parentScopeDigest childConstraintDigest = .ok decision) ↔
      IsDigest parentScopeDigest ∧ IsDigest childConstraintDigest := by
  simp only [create, postInit, bind_eq_ok, requireDigest_eq_ok, raiseIf_eq_ok, pure_eq_ok, not_not,
    Json.str.injEq]
  constructor
  · rintro ⟨_, _, ⟨_, ⟨rfl, -, parent⟩, _, ⟨rfl, -, child⟩, -⟩, -⟩
    exact ⟨parent, child⟩
  · rintro ⟨parent, child⟩
    exact ⟨_, (), ⟨_, ⟨rfl, validText_of_isDigest parent, parent⟩, _,
      ⟨rfl, validText_of_isDigest child, child⟩, (), trivial, rfl⟩, rfl⟩

end MonotonicAuthorityDecision

/-- What the check may raise. -/
inductive MonotonicFailure where
  | denied (violation : MonotonicAuthorityViolation)
  | invalid (error : Raised)

/-- The exception of a failed check. -/
def MonotonicFailure.error : MonotonicFailure → Raised
  | denied violation => violation.raised
  | invalid error => error

/-- A reason code, if its dimension is violated. -/
def codeIf (condition : Prop) [Decidable condition] (code : String) : List String :=
  if condition then [code] else []

@[simp] theorem mem_codeIf {condition : Prop} [Decidable condition] {code wanted : String} :
    wanted ∈ codeIf condition code ↔ condition ∧ wanted = code := by
  unfold codeIf
  split <;> simp_all

namespace MonotonicAuthorityChecker

/-- The reason codes that the check collects, in order. -/
def violations (parent : AuthorityScope) (child : AuthorityConstraint) :
    Except Raised (List String) := do
  let bound := codeIf (child.parentScopeDigest ≠ parent.scopeDigest) "PARENT_SCOPE_BINDING_MISMATCH"
  let exact := ExactBinding.exactBindings.flatMap fun binding =>
    codeIf (binding.of child.toAuthorityBindings ≠ binding.of parent.toAuthorityBindings)
      (upper binding.field ++ "_WIDENING")
  let parentStart ← requireTimestamp (.str parent.validFrom) "parent.valid_from"
  let parentEnd ← requireTimestamp (.str parent.validUntil) "parent.valid_until"
  let childStart ← requireTimestamp (.str child.validFrom) "child.valid_from"
  let childEnd ← requireTimestamp (.str child.validUntil) "child.valid_until"
  return bound ++ exact ++ codeIf (childStart < parentStart) "VALID_FROM_WIDENING" ++
    codeIf (parentEnd < childEnd) "VALID_UNTIL_WIDENING" ++
    codeIf (parentEnd ≤ childStart) "CHILD_STARTS_AFTER_PARENT_EXPIRY" ++
    codeIf (child.useSemantics ≠ oneTimeUse) "USE_SEMANTICS_WIDENING"

def check (sha256 : String → String) (parent : AuthorityScope) (child : AuthorityConstraint) :
    Except MonotonicFailure MonotonicAuthorityDecision :=
  match violations parent child with
  | .error error => .error (.invalid error)
  | .ok (first :: rest) => .error (.denied (.ofCodes first rest))
  | .ok [] => (MonotonicAuthorityDecision.create sha256 parent.scopeDigest
      child.constraintDigest).mapError .invalid

end MonotonicAuthorityChecker

/-- A dimension in which a constraint can be wider than a scope. -/
inductive AuthorityDimension where
  | parentScope
  | exact (binding : ExactBinding)
  | validFrom
  | validUntil
  | startAfterExpiry
deriving DecidableEq, Repr

def AuthorityDimension.code : AuthorityDimension → String
  | parentScope => "PARENT_SCOPE_BINDING_MISMATCH"
  | exact .actorId => "ACTOR_ID_WIDENING"
  | exact .workspaceId => "WORKSPACE_ID_WIDENING"
  | exact .environment => "ENVIRONMENT_WIDENING"
  | exact .capability => "CAPABILITY_WIDENING"
  | exact .capabilityDefinitionIdentity => "CAPABILITY_DEFINITION_IDENTITY_WIDENING"
  | exact .targetKind => "TARGET_KIND_WIDENING"
  | exact .targetDigest => "TARGET_DIGEST_WIDENING"
  | exact .payloadDigest => "PAYLOAD_DIGEST_WIDENING"
  | exact .policyVersion => "POLICY_VERSION_WIDENING"
  | exact .policyIdentity => "POLICY_IDENTITY_WIDENING"
  | exact .approvalSetDigest => "APPROVAL_SET_DIGEST_WIDENING"
  | exact .requiredPermission => "REQUIRED_PERMISSION_WIDENING"
  | validFrom => "VALID_FROM_WIDENING"
  | validUntil => "VALID_UNTIL_WIDENING"
  | startAfterExpiry => "CHILD_STARTS_AFTER_PARENT_EXPIRY"

theorem AuthorityDimension.code_injective : Function.Injective code := by
  intro left right same
  cases left with
  | exact left => cases left <;> cases right with
    | exact right => cases right <;> first | rfl | simp [code] at same
    | _ => simp [code] at same
  | _ => cases right with
    | exact right => cases right <;> simp [code] at same
    | _ => first | rfl | simp [code] at same

theorem ExactBinding.code_exact (binding : ExactBinding) :
    upper binding.field ++ "_WIDENING" = (AuthorityDimension.exact binding).code := by
  cases binding <;> decide

end VoodooOne
