import VoodooOne.Rollback.Preparation

/-!
# Lineage of a rollback

Each artifact of a rollback is created from the ones before it, and names them by their digests.
What they say of one another is therefore known from how they were created, up to texts that share a
digest.  Only the time of the preflight is not tied to anything.
-/

namespace VoodooOne

open Calendar

namespace RunnerBoundaryV3

/-- `create` returned the boundary. -/
def Created (sha256 : String → String) (boundary : RunnerBoundaryV3) : Prop :=
  ∃ identity lease capsule definition requirement condition boundaryRevision,
    create sha256 identity lease capsule definition requirement condition boundaryRevision =
      .ok boundary

theorem Created.checked {sha256 : String → String} {boundary : RunnerBoundaryV3}
    (created : boundary.Created sha256) :
    boundary.postInit sha256 = .ok () ∧ ∃ epoch : Int, boundary.executionEpoch = .int epoch := by
  obtain ⟨identity, lease, capsule, definition, requirement, condition, boundaryRevision,
    created⟩ :=
    created
  simp only [create, bind_eq_ok, pure_eq_ok] at created
  obtain ⟨_, _, _, _, _, _, _, _, _, _, _, _, _, _, _, _, _, checked, rfl⟩ := created
  exact ⟨checked, _, rfl⟩

theorem Created.same_or_collision {sha256 : String → String} {left right : RunnerBoundaryV3}
    (leftCreated : left.Created sha256) (rightCreated : right.Created sha256)
    (digests : left.boundaryDigest = right.boundaryDigest) :
    left.SameRun right ∨ Collision sha256 (canonicalJson left.claims)
      (canonicalJson right.claims) := by
  obtain ⟨leftChecked, _, leftEpoch⟩ := leftCreated.checked
  obtain ⟨rightChecked, _, rightEpoch⟩ := rightCreated.checked
  exact RunnerBoundaryV3.same_or_collision leftChecked rightChecked leftEpoch rightEpoch digests

end RunnerBoundaryV3

namespace CredentialAccessDecisionV3

structure Shows (decision : CredentialAccessDecisionV3) (boundary : RunnerBoundaryV3)
    (validFrom expiresAt : String) : Prop where
  boundaryDigest : decision.runnerBoundaryDigest = boundary.boundaryDigest
  runnerId : decision.runnerId = boundary.runnerId
  lease : decision.leaseId = boundary.leaseId ∧ decision.leaseDigest = boundary.leaseDigest
  executionId : decision.executionId = boundary.executionId
  executionEpoch : decision.executionEpoch = boundary.executionEpoch
  start : decision.validFrom = validFrom
  stop : decision.expiresAt = expiresAt

variable {sha256 : String → String} {decision : CredentialAccessDecisionV3}

theorem of_create {boundary : RunnerBoundaryV3} {policy : CredentialBrokerPolicyV3}
    {validFrom expiresAt decisionRevision : String}
    (created : create sha256 boundary policy validFrom expiresAt decisionRevision = .ok decision) :
    contract.Built sha256 decision ∧ Shows decision boundary validFrom expiresAt ∧
      ∃ start stop : Instant, validFrom = start.isoformat ∧ expiresAt = stop.isoformat := by
  simp only [create, bind_eq_ok, requireTimestamp_eq_ok, Json.str.injEq] at created
  obtain ⟨start, ⟨starts, -⟩, stop, ⟨stops, -⟩, _, _, _, _, _, _, _, _, built⟩ := created
  obtain rfl := Contract.eq_of_create lawful built
  exact ⟨⟨_, built⟩, ⟨rfl, rfl, ⟨rfl, rfl⟩, rfl, rfl, rfl, rfl⟩, start, stop, starts, stops⟩

/-- `create` returned the decision for a created boundary. -/
def Created (sha256 : String → String) (decision : CredentialAccessDecisionV3) : Prop :=
  ∃ boundary policy validFrom expiresAt decisionRevision,
    RunnerBoundaryV3.Created sha256 boundary ∧
      create sha256 boundary policy validFrom expiresAt decisionRevision = .ok decision

theorem Created.delimited (created : decision.Created sha256) : contract.Built sha256 decision ∧
      (∃ epoch : Int, decision.executionEpoch = .int epoch) ∧
        ∀ field ∈ contract.claims decision, Delimited (render field.2) := by
  obtain ⟨boundary, policy, validFrom, expiresAt, decisionRevision, boundaryCreated, created⟩ :=
    created
  obtain ⟨-, epoch, isEpoch⟩ := boundaryCreated.checked
  obtain ⟨built, shows, -⟩ := of_create created
  have integer : decision.executionEpoch = .int epoch := shows.executionEpoch.trans isEpoch
  have checked := built.checked
  simp only [contract, bind_eq_ok, raiseIf_eq_ok, not_or, not_not, Bool.not_eq_false] at checked
  obtain ⟨_, _, _, _, _, _, _, _, _, _, mutation, count⟩ := checked
  refine ⟨built, ⟨epoch, integer⟩, ?_⟩
  simp only [contract, claims, List.forall_mem_cons, delimited_str, delimited_int, integer,
    mutation, delimited_bool, delimited_of_equalsInt count, true_and]
  exact List.forall_mem_nil _

/-- Two decisions are for one boundary and one interval. -/
structure SameScope (left right : CredentialAccessDecisionV3) : Prop where
  boundaryDigest : left.runnerBoundaryDigest = right.runnerBoundaryDigest
  start : left.validFrom = right.validFrom
  stop : left.expiresAt = right.expiresAt

theorem Created.same_or_collision {left right : CredentialAccessDecisionV3}
    (leftCreated : left.Created sha256) (rightCreated : right.Created sha256)
    (digests : left.decisionDigest = right.decisionDigest) :
    left.SameScope right ∨
      Collision sha256 (contract.digestText left) (contract.digestText right) := by
  obtain ⟨leftBuilt, -, leftEach⟩ := leftCreated.delimited
  obtain ⟨rightBuilt, -, rightEach⟩ := rightCreated.delimited
  refine (Contract.claims_eq_or_collision lawful leftBuilt rightBuilt leftEach rightEach
    digests).imp_left fun same => ?_
  simp only [contract, claims, fieldTexts, List.map_cons, List.cons.injEq, Prod.mk.injEq,
    render_str_inj, true_and] at same
  obtain ⟨-, boundary, -, -, -, -, -, -, -, -, -, -, -, -, -, -, -, -, -, start, stop, -⟩ := same
  exact ⟨boundary, start, stop⟩

end CredentialAccessDecisionV3

theorem GitHubDeleteRefConditionContract.same_or_collision {sha256 : String → String}
    {left right : GitHubDeleteRefConditionContract} (leftBuilt : contract.Built sha256 left)
    (rightBuilt : contract.Built sha256 right)
    (digests : left.contractDigest = right.contractDigest) :
    (left.repository = right.repository ∧ left.ref = right.ref ∧
      left.expectedSha = right.expectedSha) ∨
      Collision sha256 (contract.digestText left) (contract.digestText right) := by
  have each (condition : GitHubDeleteRefConditionContract) :
      ∀ field ∈ contract.claims condition, Delimited (render field.2) := by
    simp only [contract, claims, List.forall_mem_cons, delimited_str, true_and]
    exact List.forall_mem_nil _
  refine (Contract.claims_eq_or_collision lawful leftBuilt rightBuilt (each left) (each right)
    digests).imp_left fun same => ?_
  simp only [contract, claims, fieldTexts, List.map_cons, List.cons.injEq, Prod.mk.injEq,
    render_str_inj, true_and] at same
  obtain ⟨repository, ref, expectedSha, -⟩ := same
  exact ⟨repository, ref, expectedSha⟩

namespace ExecutionTarget

def digestText (target : ExecutionTarget) : String := canonicalJson (.object target.claimFields)

theorem Created.same_or_collision {sha256 : String → String} {left right : ExecutionTarget}
    (leftCreated : left.Created sha256) (rightCreated : right.Created sha256)
    (leftFormed : left.targetClaims.WellFormed default)
    (rightFormed : right.targetClaims.WellFormed default)
    (digests : left.targetDigest = right.targetDigest) :
    left.targetClaims = right.targetClaims ∨ Collision sha256 left.digestText right.digestText := by
  have normal {target : ExecutionTarget} (created : target.Created sha256) :
      target.targetClaims.normal = target.targetClaims ∧
        target.targetDigest = digestOf sha256 (.object target.claimFields) := by
    obtain ⟨targetKind, targetClaims, created⟩ := created
    obtain ⟨-, -, passed, digest, rfl, -, rfl⟩ := create_eq_ok.mp created
    exact ⟨Json.normal_of_levels passed, rfl⟩
  obtain ⟨leftNormal, leftDigest⟩ := normal leftCreated
  obtain ⟨rightNormal, rightDigest⟩ := normal rightCreated
  by_cases texts : left.digestText = right.digestText
  · left
    have distinct : (left.claimFields.map Prod.fst).Nodup :=
      (by decide : ["schema_version", "target_type", "target_kind", "target_claims"].Nodup)
    have text (value : String) : (Json.str value).WellFormed default := .str value
    have version : (Json.int 1).WellFormed default := .int 1 (by decide)
    have each {target : ExecutionTarget} (formed : target.targetClaims.WellFormed default) :
        ∀ field ∈ target.claimFields, field.2.WellFormed default := by
      simp only [claimFields, List.forall_mem_cons, text, version, formed, true_and]
      exact List.forall_mem_nil _
    have keys : left.claimFields.map Prod.fst = right.claimFields.map Prod.fst := rfl
    have same := fields_of_canonicalJson keys distinct (each leftFormed) (each rightFormed) texts
    simp only [claimFields, Json.normalFields, List.cons.injEq, Prod.mk.injEq, leftNormal,
      rightNormal, true_and] at same
    exact same.2.1
  · exact .inr ⟨texts, leftDigest.symm.trans (digests.trans rightDigest)⟩

end ExecutionTarget

structure RollbackDecisionRequest where
  boundary : RunnerBoundaryV3
  policy : CredentialBrokerPolicyV3
  (validFrom expiresAt decisionRevision : String)

structure RollbackDeliveryRequest where
  boundary : RunnerBoundaryV3
  decision : CredentialAccessDecisionV3
  (providerInstanceId deliveredAt clockWitnessDigest deliveryRevision : String)

structure RollbackActivationRequest where
  boundary : RunnerBoundaryV3
  decision : CredentialAccessDecisionV3
  delivery : EphemeralRollbackCredentialDelivery
  activationRevision : String

structure RollbackDeletionRequest where
  target : ExecutionTarget
  boundary : RunnerBoundaryV3
  decision : CredentialAccessDecisionV3
  condition : GitHubDeleteRefConditionContract
  requestRevision : String

structure RollbackPreflightRequest where
  request : GitHubDeleteRefRequest
  target : ExecutionTarget
  boundary : RunnerBoundaryV3
  decision : CredentialAccessDecisionV3
  activation : RollbackWriteRuntimeActivation
  condition : GitHubDeleteRefConditionContract
  (observedRefSha predeleteObservationDigest checkedAt clockWitnessDigest : String)
  preflightRevision : String

namespace EphemeralRollbackCredentialDelivery

theorem of_create {sha256 : String → String} {boundary : RunnerBoundaryV3}
    {decision : CredentialAccessDecisionV3}
    {providerInstanceId deliveredAt clockWitnessDigest deliveryRevision : String}
    {delivery : EphemeralRollbackCredentialDelivery}
    (created : create sha256 boundary decision providerInstanceId deliveredAt clockWitnessDigest
      deliveryRevision = .ok delivery) :
    delivery.runnerId = boundary.runnerId ∧
      delivery.runnerBoundaryDigest = boundary.boundaryDigest ∧
      delivery.credentialDecisionDigest = decision.decisionDigest ∧
      delivery.deliveredAt = deliveredAt ∧
      ∃ start delivered stop : Instant, decision.validFrom = start.isoformat ∧
        deliveredAt = delivered.isoformat ∧ decision.expiresAt = stop.isoformat ∧
          start ≤ delivered ∧ delivered < stop := by
  simp only [create, bind_eq_ok, raiseIf_eq_ok, not_not, requireTimestamp_eq_ok,
    Json.str.injEq] at created
  obtain ⟨_, _, delivered, ⟨deliveredIs, -⟩, start, ⟨starts, -⟩, stop, ⟨stops, -⟩, _,
    ⟨after, before⟩, _, _, _, _, _, _, built⟩ := created
  obtain rfl := Contract.eq_of_create lawful built
  exact ⟨rfl, rfl, rfl, rfl, start, delivered, stop, starts, deliveredIs, stops, after, before⟩

end EphemeralRollbackCredentialDelivery

namespace RollbackWriteRuntimeActivation

structure Shows (activation : RollbackWriteRuntimeActivation) (boundary : RunnerBoundaryV3)
    (decision : CredentialAccessDecisionV3) : Prop where
  boundaryDigest : activation.runnerBoundaryDigest = boundary.boundaryDigest
  decisionDigest : activation.credentialDecisionDigest = decision.decisionDigest
  runnerId : activation.runnerId = boundary.runnerId
  lease : activation.leaseId = boundary.leaseId ∧ activation.leaseDigest = boundary.leaseDigest
  executionId : activation.executionId = boundary.executionId
  executionEpoch : .int activation.executionEpoch = boundary.executionEpoch

theorem of_create {sha256 : String → String} {boundary : RunnerBoundaryV3}
    {decision : CredentialAccessDecisionV3} {delivery : EphemeralRollbackCredentialDelivery}
    {activationRevision : String} {activation : RollbackWriteRuntimeActivation}
    (created : create sha256 boundary decision delivery activationRevision = .ok activation) :
    Shows activation boundary decision ∧ decision.runnerBoundaryDigest = boundary.boundaryDigest ∧
      delivery.runnerBoundaryDigest = boundary.boundaryDigest ∧
      delivery.credentialDecisionDigest = decision.decisionDigest := by
  simp only [create, bind_eq_ok, raiseIf_eq_ok, not_not] at created
  obtain ⟨_, ofBoundary, _, delivered, _, ofDecision, _, _, built⟩ := created
  have same := Contract.claims_of_createFrom lawful rfl built
  simp only [contract, claims, List.cons.injEq, Prod.mk.injEq, Json.str.injEq, true_and] at same
  obtain ⟨runner, boundary, decision, -, leaseId, leaseDigest, execution, epoch, -⟩ := same
  exact ⟨⟨boundary, decision, runner, ⟨leaseId, leaseDigest⟩, execution, epoch⟩, ofBoundary,
    delivered, ofDecision⟩

end RollbackWriteRuntimeActivation

namespace GitHubDeleteRefRequest

structure Shows (request : GitHubDeleteRefRequest) (target : ExecutionTarget)
    (condition : GitHubDeleteRefConditionContract) : Prop where
  targetDigest : request.targetDigest = target.targetDigest
  conditionDigest : request.conditionContractDigest = condition.contractDigest
  commit : request.repository = condition.repository ∧ request.ref = condition.ref ∧
    request.expectedSha = condition.expectedSha
  ofTarget : target.targetClaims.get "repository" = .str condition.repository ∧
    target.targetClaims.get "ref" = .str condition.ref ∧
      target.targetClaims.get "expected_sha" = .str condition.expectedSha

theorem of_create {sha256 : String → String} {target : ExecutionTarget}
    {boundary : RunnerBoundaryV3} {decision : CredentialAccessDecisionV3}
    {condition : GitHubDeleteRefConditionContract} {requestRevision : String}
    {request : GitHubDeleteRefRequest}
    (created : create sha256 target boundary decision condition requestRevision = .ok request) :
    Shows request target condition := by
  simp only [create, bind_eq_ok, raiseIf_eq_ok, not_or, not_not] at created
  obtain ⟨_, _, _, ofTarget, _, _, _, _, _, _, built⟩ := created
  obtain rfl := Contract.eq_of_create lawful built
  exact ⟨rfl, rfl, ⟨rfl, rfl, rfl⟩, ofTarget⟩

end GitHubDeleteRefRequest

/-- A preflight with everything that it comes from.  Each artifact is returned by its own `create`,
on arguments that come from theirs. -/
structure RollbackEvidence (sha256 : String → String) where
  preflight : RollbackWriteEffectPreflight
  preflightRequest : RollbackPreflightRequest
  deletionRequest : RollbackDeletionRequest
  activationRequest : RollbackActivationRequest
  deliveryRequest : RollbackDeliveryRequest
  decisionRequest : RollbackDecisionRequest
  preflightCreated : RollbackWriteEffectPreflight.create sha256 preflightRequest.request
    preflightRequest.target preflightRequest.boundary preflightRequest.decision
    preflightRequest.activation preflightRequest.condition preflightRequest.observedRefSha
    preflightRequest.predeleteObservationDigest preflightRequest.checkedAt
    preflightRequest.clockWitnessDigest preflightRequest.preflightRevision = .ok preflight
  requestCreated : GitHubDeleteRefRequest.create sha256 deletionRequest.target
    deletionRequest.boundary deletionRequest.decision deletionRequest.condition
    deletionRequest.requestRevision = .ok preflightRequest.request
  activationCreated : RollbackWriteRuntimeActivation.create sha256 activationRequest.boundary
    activationRequest.decision activationRequest.delivery activationRequest.activationRevision =
      .ok preflightRequest.activation
  /-- The delivery is the one that the activation is created from. -/
  deliveryCreated : EphemeralRollbackCredentialDelivery.create sha256 deliveryRequest.boundary
    deliveryRequest.decision deliveryRequest.providerInstanceId deliveryRequest.deliveredAt
    deliveryRequest.clockWitnessDigest deliveryRequest.deliveryRevision =
      .ok activationRequest.delivery
  decisionCreated : CredentialAccessDecisionV3.create sha256 decisionRequest.boundary
    decisionRequest.policy decisionRequest.validFrom decisionRequest.expiresAt
    decisionRequest.decisionRevision = .ok preflightRequest.decision
  boundaries : ∀ boundary ∈ [preflightRequest.boundary, decisionRequest.boundary,
    deliveryRequest.boundary, activationRequest.boundary], RunnerBoundaryV3.Created sha256 boundary
  decisions : ∀ decision ∈ [deliveryRequest.decision, activationRequest.decision],
    CredentialAccessDecisionV3.Created sha256 decision
  conditions : ∀ condition ∈ [preflightRequest.condition, deletionRequest.condition],
    GitHubDeleteRefConditionContract.contract.Built sha256 condition
  targets : ∀ target ∈ [preflightRequest.target, deletionRequest.target],
    ExecutionTarget.Created sha256 target ∧ target.targetClaims.WellFormed default

namespace RollbackEvidence

variable {sha256 : String → String} (evidence : RollbackEvidence sha256)

def boundary : RunnerBoundaryV3 := evidence.preflightRequest.boundary

def decision : CredentialAccessDecisionV3 := evidence.preflightRequest.decision

def activation : RollbackWriteRuntimeActivation := evidence.preflightRequest.activation

def delivery : EphemeralRollbackCredentialDelivery := evidence.activationRequest.delivery

def request : GitHubDeleteRefRequest := evidence.preflightRequest.request

def target : ExecutionTarget := evidence.preflightRequest.target

def condition : GitHubDeleteRefConditionContract := evidence.preflightRequest.condition

/-- The canonical texts under the digests that link the evidence. -/
def digestTexts : List String :=
  ([evidence.preflightRequest.boundary, evidence.decisionRequest.boundary,
      evidence.deliveryRequest.boundary, evidence.activationRequest.boundary].map fun boundary =>
        canonicalJson boundary.claims) ++
    [evidence.preflightRequest.decision, evidence.deliveryRequest.decision,
      evidence.activationRequest.decision].map CredentialAccessDecisionV3.contract.digestText ++
    [evidence.preflightRequest.condition, evidence.deletionRequest.condition].map
      GitHubDeleteRefConditionContract.contract.digestText ++
    [evidence.preflightRequest.target, evidence.deletionRequest.target].map
      ExecutionTarget.digestText

/-- Two of the texts that differ have one digest. -/
def Collides : Prop :=
  ∃ left ∈ evidence.digestTexts, ∃ right ∈ evidence.digestTexts, Collision sha256 left right

/-- The preflight stays inside the credential's interval, and everything it comes from is of one
lease. -/
structure Confined : Prop where
  /-- The credential was delivered and the preflight made while the decision was valid. -/
  window : ∃ start delivered checked stop : Instant,
    evidence.decision.validFrom = start.isoformat ∧
      evidence.delivery.deliveredAt = delivered.isoformat ∧
        evidence.preflight.checkedAt = checked.isoformat ∧
          evidence.decision.expiresAt = stop.isoformat ∧
            start ≤ delivered ∧ delivered ≤ checked ∧ checked < stop
  runner : evidence.decision.runnerId = evidence.boundary.runnerId ∧
    evidence.delivery.runnerId = evidence.boundary.runnerId ∧
      evidence.activation.runnerId = evidence.boundary.runnerId
  decisionLease : evidence.decision.leaseId = evidence.boundary.leaseId ∧
    evidence.decision.leaseDigest = evidence.boundary.leaseDigest
  activationLease : evidence.activation.leaseId = evidence.boundary.leaseId ∧
    evidence.activation.leaseDigest = evidence.boundary.leaseDigest
  execution : evidence.decision.executionId = evidence.boundary.executionId ∧
    evidence.activation.executionId = evidence.boundary.executionId
  epoch : evidence.decision.executionEpoch = evidence.boundary.executionEpoch ∧
    .int evidence.activation.executionEpoch = evidence.boundary.executionEpoch
  /-- The delivery names lease, execution and epoch by the digests of boundary and decision. -/
  delivered : evidence.delivery.runnerBoundaryDigest = evidence.boundary.boundaryDigest ∧
    evidence.delivery.credentialDecisionDigest = evidence.decision.decisionDigest
  ofTarget : evidence.target.targetClaims.get "repository" = .str evidence.request.repository ∧
    evidence.target.targetClaims.get "ref" = .str evidence.request.ref ∧
      evidence.target.targetClaims.get "expected_sha" = .str evidence.request.expectedSha
  ofCondition : evidence.condition.repository = evidence.request.repository ∧
    evidence.condition.ref = evidence.request.ref ∧
      evidence.condition.expectedSha = evidence.request.expectedSha
  observed : evidence.preflight.observedRefSha = evidence.request.expectedSha

/-- The preflight is created for a time from the delivery on and before the end that was asked of
the decision. -/
def OnTime : Prop :=
  evidence.deliveryRequest.deliveredAt ≤ evidence.preflightRequest.checkedAt ∧
    evidence.preflightRequest.checkedAt < evidence.decisionRequest.expiresAt

variable {evidence}

theorem not_collision (free : ¬evidence.Collides) {left right : String}
    (leftMember : left ∈ evidence.digestTexts) (rightMember : right ∈ evidence.digestTexts) :
    ¬Collision sha256 left right :=
  fun collision => free ⟨left, leftMember, right, rightMember, collision⟩

theorem sameRun (free : ¬evidence.Collides) {left right : RunnerBoundaryV3}
    (leftMember : left ∈ [evidence.preflightRequest.boundary, evidence.decisionRequest.boundary,
      evidence.deliveryRequest.boundary, evidence.activationRequest.boundary])
    (rightMember : right ∈ [evidence.preflightRequest.boundary, evidence.decisionRequest.boundary,
      evidence.deliveryRequest.boundary, evidence.activationRequest.boundary])
    (digests : left.boundaryDigest = right.boundaryDigest) : left.SameRun right := by
  have text {boundary : RunnerBoundaryV3}
      (member : boundary ∈ [evidence.preflightRequest.boundary, evidence.decisionRequest.boundary,
        evidence.deliveryRequest.boundary, evidence.activationRequest.boundary]) :
      canonicalJson boundary.claims ∈ evidence.digestTexts := by
    simp only [digestTexts, List.mem_append]
    exact .inl (.inl (.inl (List.mem_map_of_mem member)))
  exact ((evidence.boundaries left leftMember).same_or_collision
    (evidence.boundaries right rightMember) digests).resolve_right
      (not_collision free (text leftMember) (text rightMember))

theorem decision_created {decision : CredentialAccessDecisionV3}
    (member : decision ∈ [evidence.preflightRequest.decision, evidence.deliveryRequest.decision,
      evidence.activationRequest.decision]) : decision.Created sha256 := by
  rcases List.mem_cons.mp member with rfl | later
  · exact ⟨_, _, _, _, _, evidence.boundaries _ (by simp), evidence.decisionCreated⟩
  · exact evidence.decisions decision later

theorem sameScope (free : ¬evidence.Collides) {left right : CredentialAccessDecisionV3}
    (leftMember : left ∈ [evidence.preflightRequest.decision, evidence.deliveryRequest.decision,
      evidence.activationRequest.decision])
    (rightMember : right ∈ [evidence.preflightRequest.decision, evidence.deliveryRequest.decision,
      evidence.activationRequest.decision])
    (digests : left.decisionDigest = right.decisionDigest) : left.SameScope right := by
  have text {decision : CredentialAccessDecisionV3}
      (member : decision ∈ [evidence.preflightRequest.decision, evidence.deliveryRequest.decision,
        evidence.activationRequest.decision]) :
      CredentialAccessDecisionV3.contract.digestText decision ∈ evidence.digestTexts := by
    simp only [digestTexts, List.mem_append]
    exact .inl (.inl (.inr (List.mem_map_of_mem member)))
  exact ((decision_created leftMember).same_or_collision (decision_created rightMember)
    digests).resolve_right (not_collision free (text leftMember) (text rightMember))

theorem sameCommit (free : ¬evidence.Collides)
    (digests : evidence.preflightRequest.condition.contractDigest =
      evidence.deletionRequest.condition.contractDigest) :
    evidence.condition.repository = evidence.deletionRequest.condition.repository ∧
      evidence.condition.ref = evidence.deletionRequest.condition.ref ∧
        evidence.condition.expectedSha = evidence.deletionRequest.condition.expectedSha := by
  have text {condition : GitHubDeleteRefConditionContract}
      (member : condition ∈ [evidence.preflightRequest.condition,
        evidence.deletionRequest.condition]) :
      GitHubDeleteRefConditionContract.contract.digestText condition ∈ evidence.digestTexts := by
    simp only [digestTexts, List.mem_append]
    exact .inl (.inr (List.mem_map_of_mem member))
  exact (GitHubDeleteRefConditionContract.same_or_collision (evidence.conditions _ (by simp))
    (evidence.conditions _ (by simp)) digests).resolve_right
      (not_collision free (text (by simp)) (text (by simp)))

theorem sameTarget (free : ¬evidence.Collides)
    (digests : evidence.preflightRequest.target.targetDigest =
      evidence.deletionRequest.target.targetDigest) :
    evidence.target.targetClaims = evidence.deletionRequest.target.targetClaims := by
  have text {target : ExecutionTarget}
      (member : target ∈ [evidence.preflightRequest.target, evidence.deletionRequest.target]) :
      target.digestText ∈ evidence.digestTexts := by
    simp only [digestTexts, List.mem_append]
    exact .inr (List.mem_map_of_mem member)
  obtain ⟨leftCreated, leftFormed⟩ := evidence.targets evidence.preflightRequest.target (by simp)
  obtain ⟨rightCreated, rightFormed⟩ := evidence.targets evidence.deletionRequest.target (by simp)
  exact (leftCreated.same_or_collision rightCreated leftFormed rightFormed digests).resolve_right
    (not_collision free (text (by simp)) (text (by simp)))

/-- What the checks of the preflight tie together. -/
structure Bound (evidence : RollbackEvidence sha256) : Prop where
  target : evidence.request.targetDigest = evidence.target.targetDigest
  boundary : evidence.activation.runnerBoundaryDigest = evidence.boundary.boundaryDigest
  decision : evidence.activation.credentialDecisionDigest = evidence.decision.decisionDigest
  condition : evidence.request.conditionContractDigest = evidence.condition.contractDigest
  observed : evidence.preflight.observedRefSha = evidence.request.expectedSha
  checkedAt : evidence.preflight.checkedAt = evidence.preflightRequest.checkedAt
  isTime : ∃ checked : Instant, evidence.preflightRequest.checkedAt = checked.isoformat

theorem bound (evidence : RollbackEvidence sha256) : evidence.Bound := by
  have created := evidence.preflightCreated
  simp only [RollbackWriteEffectPreflight.create, bind_eq_ok, raiseIf_eq_ok, not_or, not_not,
    requireTimestamp_eq_ok, Json.str.injEq] at created
  obtain ⟨_, target, _, -, _, -, _, boundary, _, decision, _, condition, _, -, _, ⟨observed, -⟩, _,
    -, _, -, _, -, _, -, checked, ⟨isTime, -⟩, built⟩ := created
  have whole := Contract.eq_of_create RollbackWriteEffectPreflight.lawful built
  exact ⟨target, boundary, decision, condition,
    (congrArg RollbackWriteEffectPreflight.observedRefSha whole).trans observed,
    congrArg RollbackWriteEffectPreflight.checkedAt whole, checked, isTime⟩

/-- A preflight stays inside the credential's interval exactly when it is made on time. -/
theorem confined_iff (free : ¬evidence.Collides) : evidence.Confined ↔ evidence.OnTime := by
  obtain ⟨target, boundary, decision, condition, observed, checkedAt, checked, checkedIs⟩ :=
    evidence.bound
  obtain ⟨activated, decidedFor, deliveredFor, deliveredUnder⟩ :=
    RollbackWriteRuntimeActivation.of_create evidence.activationCreated
  obtain ⟨deliveredTo, deliveredBoundary, deliveredDecision, deliveredAt, start, delivered, stop,
    starts, deliveredIs, stops, after, before⟩ :=
      EphemeralRollbackCredentialDelivery.of_create evidence.deliveryCreated
  obtain ⟨-, decided, -⟩ := CredentialAccessDecisionV3.of_create evidence.decisionCreated
  have requested := GitHubDeleteRefRequest.of_create evidence.requestCreated
  have activationBoundary : evidence.activationRequest.boundary.boundaryDigest =
      evidence.preflightRequest.boundary.boundaryDigest :=
    activated.boundaryDigest.symm.trans boundary
  have activationDecision : evidence.activationRequest.decision.decisionDigest =
      evidence.preflightRequest.decision.decisionDigest :=
    activated.decisionDigest.symm.trans decision
  have activationScope := sameScope free (by simp) (by simp) activationDecision
  have decisionBoundary : evidence.decisionRequest.boundary.boundaryDigest =
      evidence.preflightRequest.boundary.boundaryDigest :=
    decided.boundaryDigest.symm.trans
      (activationScope.boundaryDigest.symm.trans (decidedFor.trans activationBoundary))
  have deliveryBoundary : evidence.deliveryRequest.boundary.boundaryDigest =
      evidence.preflightRequest.boundary.boundaryDigest :=
    deliveredBoundary.symm.trans (deliveredFor.trans activationBoundary)
  have deliveryDecision : evidence.deliveryRequest.decision.decisionDigest =
      evidence.preflightRequest.decision.decisionDigest :=
    deliveredDecision.symm.trans (deliveredUnder.trans activationDecision)
  have deliveryScope := sameScope free (by simp) (by simp) deliveryDecision
  have ofDecision := sameRun free (by simp) (by simp) decisionBoundary
  have ofDelivery := sameRun free (by simp) (by simp) deliveryBoundary
  have ofActivation := sameRun free (by simp) (by simp) activationBoundary
  have commit := sameCommit free (condition.symm.trans requested.conditionDigest)
  have claims := sameTarget free (target.symm.trans requested.targetDigest)
  have startsAt : evidence.decision.validFrom = start.isoformat :=
    deliveryScope.start.symm.trans starts
  have stopsAt : evidence.decision.expiresAt = stop.isoformat := deliveryScope.stop.symm.trans stops
  have asked : evidence.decisionRequest.expiresAt = stop.isoformat :=
    decided.stop.symm.trans stopsAt
  have onTime : evidence.OnTime ↔ delivered ≤ checked ∧ checked < stop := by
    rw [OnTime, deliveredIs, checkedIs, asked, Instant.isoformat_le_isoformat,
      Instant.isoformat_lt_isoformat]
  rw [onTime]
  constructor
  · rintro ⟨⟨_, otherDelivered, otherChecked, otherStop, -, isDelivered, isChecked, isStop, -,
      later, earlier⟩, -⟩
    obtain rfl := Instant.isoformat_injective
      (isDelivered.symm.trans (deliveredAt.trans deliveredIs))
    obtain rfl := Instant.isoformat_injective (isChecked.symm.trans (checkedAt.trans checkedIs))
    obtain rfl := Instant.isoformat_injective (isStop.symm.trans stopsAt)
    exact ⟨later, earlier⟩
  · rintro ⟨later, earlier⟩
    exact
      { window := ⟨start, delivered, checked, stop, startsAt, deliveredAt.trans deliveredIs,
          checkedAt.trans checkedIs, stopsAt, after, later, earlier⟩
        runner := ⟨decided.runnerId.trans ofDecision.runnerId,
          deliveredTo.trans ofDelivery.runnerId, activated.runnerId.trans ofActivation.runnerId⟩
        decisionLease := ⟨decided.lease.1.trans ofDecision.lease.1,
          decided.lease.2.trans ofDecision.lease.2⟩
        activationLease := ⟨activated.lease.1.trans ofActivation.lease.1,
          activated.lease.2.trans ofActivation.lease.2⟩
        execution := ⟨decided.executionId.trans ofDecision.executionId,
          activated.executionId.trans ofActivation.executionId⟩
        epoch := ⟨decided.executionEpoch.trans ofDecision.executionEpoch,
          activated.executionEpoch.trans ofActivation.executionEpoch⟩
        delivered := ⟨deliveredFor.trans activationBoundary,
          deliveredUnder.trans activationDecision⟩
        ofTarget := by
          rw [claims, request, requested.commit.1, requested.commit.2.1, requested.commit.2.2]
          exact requested.ofTarget
        ofCondition := ⟨commit.1.trans requested.commit.1.symm,
          commit.2.1.trans requested.commit.2.1.symm, commit.2.2.trans requested.commit.2.2.symm⟩
        observed }

end RollbackEvidence

/-- A rollback preflight stays inside the credential's interval and one lease exactly when it is
made
from the delivery on and before the decision ends, unless texts that link the evidence collide. -/
theorem rollbackPreflight_confined_iff (sha256 : String → String)
    (evidence : RollbackEvidence sha256) :
    (evidence.Confined ↔ evidence.OnTime) ∨ evidence.Collides := by
  by_cases collides : evidence.Collides
  · exact .inr collides
  · exact .inl (RollbackEvidence.confined_iff collides)

namespace LatePreflight

variable (sha256 : Sha256)

/-- The capability of the rollback, without its identity. -/
def definitionDraft : CapabilityDefinition where
  capability := githubDeleteRefCapability
  targetKind := githubRefTargetKind
  binderId := githubDeleteRefBinderId
  handlerId := githubDeleteRefHandler
  effectClass := mutationReversibleEffectClass
  verificationClass := providerReadVerificationClass
  supportedEnvironments := [stagingEnvironment]
  requiredPermissions := [requiredExecutionPermission]
  productionEligible := false
  definitionIdentity := ""

def definition : CapabilityDefinition :=
  { definitionDraft with
    definitionIdentity := digestOf sha256.hexdigest definitionDraft.claims }

def capsuleDraft : ExecutionCapsule where
  capabilityDefinitionIdentity := (definition sha256).definitionIdentity
  targetKind := githubRefTargetKind
  handlerId := githubDeleteRefHandler
  handlerDigest := sha256.someDigest
  moduleManifestDigest := sha256.someDigest
  artifactKind := "image"
  artifactDigest := sha256.someDigest
  rootfsDigest := sha256.someDigest
  dependencyLockDigest := sha256.someDigest
  sbomDigest := sha256.someDigest
  networkPolicyDigest := sha256.someDigest
  resourceLimitProfileDigest := sha256.someDigest
  credentialClass := githubDeleteRefCredentialClass
  runnerClass := writeRunnerClass
  preconditionEnforcementClass := readThenCompare
  verificationClass := providerReadVerificationClass
  verificationContractIdentity := sha256.someDigest
  capsuleRevision := "r1"
  capsuleDigest := ""

def capsule : ExecutionCapsule := sha256.finish ExecutionCapsule.contract (capsuleDraft sha256)

def conformanceDraft : HandlerConformanceEvidence where
  capabilityDefinitionIdentity := (definition sha256).definitionIdentity
  executionCapsuleDigest := (capsule sha256).capsuleDigest
  handlerId := githubDeleteRefHandler
  handlerDigest := sha256.someDigest
  runnerClass := writeRunnerClass
  credentialClass := githubDeleteRefCredentialClass
  preconditionEnforcementClass := readThenCompare
  verificationContractIdentity := sha256.someDigest
  atomicProviderConditionContractIdentity := .null
  evidenceRevision := "r1"
  evidenceDigest := ""

def conformance : HandlerConformanceEvidence :=
  sha256.finish HandlerConformanceEvidence.contract (conformanceDraft sha256)

/-- The commit that the reference pointed to when it was created. -/
def commit : String := "0000000000000000000000000000000000000000"

theorem validText_commit : ValidText commit := by decide

theorem requireSha1Form_commit (field : String) : requireSha1Form field (.str commit) = .ok () := by
  rw [requireSha1Form, raiseIf_eq_ok, Bool.not_eq_false]
  decide

theorem requireCanaryRefForm_ref :
    requireCanaryRefForm (.str "refs/heads/vone-canary/one") = .ok () := by
  simp only [requireCanaryRefForm, bind_eq_ok, orRaise_eq_ok, raiseIf_eq_ok, Bool.not_eq_false]
  exact ⟨"one".toList, by decide⟩

def conditionDraft : GitHubDeleteRefConditionContract where
  repository := "acme/one"
  ref := "refs/heads/vone-canary/one"
  expectedSha := commit
  originalCreateResponseDigest := sha256.someDigest
  originalVerificationResultDigest := sha256.someDigest
  provider := githubProvider
  operation := deleteRefOperation
  targetKind := githubRefTargetKind
  temporalModel := readThenDeleteNonAtomic
  deleteSemantics := deleteExactTargetOnly
  verificationClass := providerReadVerificationClass
  contractRevision := "r1"
  contractDigest := ""

def condition : GitHubDeleteRefConditionContract :=
  sha256.finish GitHubDeleteRefConditionContract.contract (conditionDraft sha256)

theorem condition_created : GitHubDeleteRefConditionContract.contract.create sha256.hexdigest
    (conditionDraft sha256) = .ok (condition sha256) := by
  have digest := sha256.passes ""
  have own (text : String) := sha256.passes text
  refine Contract.create_of_holds GitHubDeleteRefConditionContract.lawful _
    (condition sha256).contractDigest rfl (fun self reads => ?_) rfl
  simp only [GitHubDeleteRefConditionContract.contract, Contract.fieldsWith, Contract.claimFields,
    GitHubDeleteRefConditionContract.claims, conditionDraft, List.cons_append, List.nil_append,
    List.forall_mem_cons] at reads
  simp only [GitHubDeleteRefConditionContract.contract, requireTexts, requireDigests,
    List.map_cons, List.map_nil, List.cons_append, List.nil_append, List.forall_mem_cons,
    AttributeCheck.Holds, Attributes.text, Json.text?, reads, Option.getD_some, true_and]
  exact ⟨by decide, by decide, validText_commit, requireRepositoryForm_str.mpr (by decide),
    requireCanaryRefForm_ref, requireSha1Form_commit _, digest, digest, own _, by decide, by decide,
    by decide, by decide, by decide, by decide, by decide, List.forall_mem_nil _⟩

def requirementDraft : RollbackWriteRequirement where
  capabilityDefinitionIdentity := (definition sha256).definitionIdentity
  executionCapsuleDigest := (capsule sha256).capsuleDigest
  handlerConformanceEvidenceDigest := (conformance sha256).evidenceDigest
  conditionContractDigest := (condition sha256).contractDigest
  verificationContractIdentity := sha256.someDigest
  effectClass := mutationReversibleEffectClass
  preconditionEnforcementClass := readThenCompare
  temporalModel := readThenDeleteNonAtomic
  maxProviderMutations := .int 1
  providerMutationAllowed := .bool true
  rollbackStrategy := recreateExactDeletedRefSeparateAuthority
  requirementRevision := "r1"
  requirementDigest := ""

def requirement : RollbackWriteRequirement :=
  sha256.finish RollbackWriteRequirement.contract (requirementDraft sha256)

theorem requirement_created : RollbackWriteRequirement.contract.create sha256.hexdigest
    (requirementDraft sha256) = .ok (requirement sha256) := by
  have digest := sha256.passes ""
  have own (text : String) := sha256.passes text
  refine Contract.create_of_holds RollbackWriteRequirement.lawful _
    (requirement sha256).requirementDigest rfl (fun self reads => ?_) rfl
  simp only [RollbackWriteRequirement.contract, Contract.fieldsWith, Contract.claimFields,
    RollbackWriteRequirement.claims, requirementDraft, List.cons_append, List.nil_append,
    List.forall_mem_cons] at reads
  simp only [RollbackWriteRequirement.contract, requireTexts, requireDigests, List.map_cons,
    List.map_nil, List.cons_append, List.nil_append, List.forall_mem_cons, AttributeCheck.Holds,
    Attributes.text, Json.text?, reads, Option.getD_some, true_and]
  exact ⟨own _, own _, own _, own _, digest, own _, by decide, by decide, by decide, by decide,
    by decide, rfl, rfl, List.forall_mem_nil _⟩

theorem requirement_returned : RollbackWriteRequirement.create sha256.hexdigest (definition sha256)
    (capsule sha256) (conformance sha256) (condition sha256) "r1" = .ok (requirement sha256) := by
  simp only [RollbackWriteRequirement.create, bind_eq_ok, raiseIf_eq_ok, not_or, not_not,
    requireText_eq_ok]
  exact ⟨(), rfl, (), ⟨rfl, rfl⟩, (), rfl, (), rfl, (), rfl, (),
    ⟨fun eligible => Bool.noConfusion eligible, rfl⟩, (), rfl, (), ⟨rfl, rfl⟩, (), rfl, (), rfl, (),
    rfl, (), rfl, "r1", ⟨rfl, by decide⟩, requirement_created sha256⟩

def identityDraft : RunnerIdentity where
  runnerId := ""
  runnerClass := writeRunnerClass
  provider := githubProvider
  providerInstanceId := "runner_1"
  environment := stagingEnvironment
  rootfsDigest := sha256.someDigest
  resourceLimitProfileDigest := sha256.someDigest
  networkPolicyDigest := sha256.someDigest
  identityRevision := "r1"
  identityDigest := ""

def identity : RunnerIdentity :=
  sha256.finish RunnerIdentity.contract { identityDraft sha256 with
    runnerId := (identityDraft sha256).logicalIdentity sha256.hexdigest }

def targetFields : List (String × Json) :=
  [("repository", .str "acme/one"), ("ref", .str "refs/heads/vone-canary/one"),
    ("expected_sha", .str commit),
    ("original_create_response_digest", .str sha256.someDigest),
    ("original_verification_result_digest", .str sha256.someDigest)]

def targetDraft : ExecutionTarget :=
  ⟨githubRefTargetKind, (Json.object (targetFields sha256)).normal, ""⟩

def target : ExecutionTarget :=
  { targetDraft sha256 with
    targetDigest := digestOf sha256.hexdigest (.object (targetDraft sha256).claimFields) }

theorem targetFields_texts : ∀ field ∈ targetFields sha256, ∃ text, field.2 = .str text := by
  simp only [targetFields, List.forall_mem_cons]
  exact ⟨⟨_, rfl⟩, ⟨_, rfl⟩, ⟨_, rfl⟩, ⟨_, rfl⟩, ⟨_, rfl⟩, List.forall_mem_nil _⟩

theorem targetFields_distinct : ((targetFields sha256).map Prod.fst).Nodup :=
  (by decide : GitHubDeleteRefRequest.targetClaimNames.Nodup)

theorem targetClaims_eq : (target sha256).targetClaims = .object (targetFields sha256) :=
  Json.normal_object_of_texts (targetFields_texts sha256)

theorem target_created : (target sha256).Created sha256.hexdigest := by
  refine ⟨githubRefTargetKind, .object (targetFields sha256),
    ExecutionTarget.create_eq_ok.mpr ⟨by decide, ⟨_, rfl⟩, ?_, _, rfl, sha256.isDigest _, rfl⟩⟩
  rw [Json.object, jsonLevels, requireJsonValue, forEach_eq_ok]
  intro entry member
  obtain ⟨text, isText⟩ :=
    targetFields_texts sha256 entry ((List.mem_insertionSort Json.keyLe).mp member)
  rw [isText, requireJsonValue]
  all_goals exact fun _ => Json.noConfusion

theorem target_wellFormed : (target sha256).targetClaims.WellFormed default := by
  rw [targetClaims_eq]
  refine wellFormed_object (targetFields_distinct sha256) fun field member => ?_
  obtain ⟨text, isText⟩ := targetFields_texts sha256 field member
  rw [isText]
  exact .str text

structure RollbackLease (sha256 : Sha256) where
  lease : ExecutionLease
  built : ExecutionLease.contract.Built sha256.hexdigest lease
  staging : lease.environment = stagingEnvironment
  runnerClass : lease.runnerClass = writeRunnerClass
  ofCapsule : lease.executionCapsuleDigest = (capsule sha256).capsuleDigest

namespace RollbackLease

variable {sha256 : Sha256} (leased : RollbackLease sha256)

theorem digest_passes : (ValidText leased.lease.leaseId ∧ IsDigest leased.lease.leaseId) ∧
    (ValidText leased.lease.leaseDigest ∧ IsDigest leased.lease.leaseDigest) ∧
      ValidText leased.lease.admissionId ∧ IsDigest leased.lease.admissionId := by
  have digests := leased.built.isDigests ExecutionLease.lawful
    [("lease_id", leased.lease.leaseId), ("lease_digest", leased.lease.leaseDigest),
      ("admission_id", leased.lease.admissionId)]
    (by simp [ExecutionLease.contract, ExecutionLease.claims, requireDigests])
  simp only [List.forall_mem_cons] at digests
  obtain ⟨leaseId, leaseDigest, admissionId, -⟩ := digests
  exact ⟨⟨validText_of_isDigest leaseId, leaseId⟩, ⟨validText_of_isDigest leaseDigest, leaseDigest⟩,
    validText_of_isDigest admissionId, admissionId⟩

theorem validText_executionId : ValidText leased.lease.executionId :=
  leased.built.validTexts ExecutionLease.lawful [("execution_id", leased.lease.executionId)]
    (by simp [ExecutionLease.contract, ExecutionLease.claims, requireTexts]) _ List.mem_cons_self

theorem one_le_epoch : 1 ≤ leased.lease.executionEpoch := by
  have checked : requireEpochOf "execution_epoch" ∈ ExecutionLease.contract.checks := by
    simp [ExecutionLease.contract]
  exact leased.built.minimum_le ExecutionLease.lawful _ checked
    (by simp [ExecutionLease.contract, ExecutionLease.claims])

theorem positiveEpoch : requirePositiveEpoch "execution_epoch must be >= 1"
    (.int leased.lease.executionEpoch) = .ok () := by
  have positive := leased.one_le_epoch
  simp only [requirePositiveEpoch, Json.belowOne, Json.isBool, ok_bind, raiseIf_eq_ok,
    decide_eq_true_eq, Bool.false_eq_true, or_false, not_lt]
  exact positive

end RollbackLease

theorem policy_bounded : 1 ≤ 300 ∧ 300 ≤ maxWriteCredentialTtlSeconds := by decide

def policyDraft : CredentialBrokerPolicyV3 where
  credentialClass := githubDeleteRefCredentialClass
  provider := githubProvider
  audience := githubApiAudience
  capabilityDefinitionIdentity := (definition sha256).definitionIdentity
  rollbackRequirementDigest := (requirement sha256).requirementDigest
  environment := stagingEnvironment
  accessMode := writeBoundedAccessMode
  providerOperation := deleteRefOperation
  providerMutationAllowed := .bool true
  maxProviderMutations := .int 1
  maxTtlSeconds := 300
  policyRevision := "r1"
  policyDigest := ""
  ttl_bounded := policy_bounded

def policy : CredentialBrokerPolicyV3 :=
  { policyDraft sha256 with
    policyDigest := digestOf sha256.hexdigest (policyDraft sha256).claims }

variable {sha256} (leased : RollbackLease sha256)

/-- The boundary of the lease, without its digest. -/
def boundaryDraft : RunnerBoundaryV3 where
  runnerId := (identity sha256).runnerId
  runnerIdentityDigest := (identity sha256).identityDigest
  leaseId := leased.lease.leaseId
  leaseDigest := leased.lease.leaseDigest
  admissionId := leased.lease.admissionId
  executionId := leased.lease.executionId
  executionEpoch := .int leased.lease.executionEpoch
  executionCapsuleDigest := (capsule sha256).capsuleDigest
  capabilityDefinitionIdentity := (definition sha256).definitionIdentity
  rollbackRequirementDigest := (requirement sha256).requirementDigest
  conditionContractDigest := (condition sha256).contractDigest
  verificationContractIdentity := sha256.someDigest
  environment := leased.lease.environment
  runnerClass := writeRunnerClass
  credentialClass := githubDeleteRefCredentialClass
  effectCeiling := mutationReversibleEffectClass
  networkEgressDefault := denyAllNetworkDefault
  providerMutationAllowed := .bool true
  maxProviderMutations := .int 1
  temporalModel := readThenDeleteNonAtomic
  boundaryRevision := "r1"
  boundaryDigest := ""

def boundary : RunnerBoundaryV3 :=
  { boundaryDraft leased with
    boundaryDigest := digestOf sha256.hexdigest (boundaryDraft leased).claims }

def boundaryOf (runner : RunnerIdentity) : RunnerBoundaryV3 :=
  let draft := { boundaryDraft leased with
    runnerId := runner.runnerId
    runnerIdentityDigest := runner.identityDigest }
  { draft with boundaryDigest := digestOf sha256.hexdigest draft.claims }

theorem boundaryOf_checked {runner : RunnerIdentity} (runnerId : IsDigest runner.runnerId)
    (identityDigest : IsDigest runner.identityDigest) :
    (boundaryOf leased runner).postInit sha256.hexdigest = .ok () := by
  have some : IsDigest sha256.someDigest := sha256.isDigest _
  have own (text : String) : IsDigest (sha256.hexdigest text) := sha256.isDigest text
  obtain ⟨leaseId, leaseDigest, admissionId⟩ := leased.digest_passes
  have environment : ValidText leased.lease.environment := by
    rw [leased.staging]
    decide
  simp only [RunnerBoundaryV3.postInit, bind_eq_ok, requireDigestFields_eq_ok,
    requireTextFields_eq_ok, raiseIf_eq_ok, not_or, not_not]
  refine ⟨(), ?digests, (), ?texts, (), leased.positiveEpoch, (), ⟨leased.staging, rfl⟩, (), rfl,
    (), rfl, (), rfl, (), ⟨rfl, fun never => Bool.noConfusion never⟩, (), rfl, rfl⟩
  case digests =>
    simp only [List.forall_mem_cons]
    exact ⟨runnerId, identityDigest, leaseId.2, leaseDigest.2, admissionId.2, own _, own _, own _,
      own _, some, own _, List.forall_mem_nil _⟩
  case texts =>
    simp only [List.forall_mem_cons]
    exact ⟨leased.validText_executionId, environment,
      (by decide : ValidText writeRunnerClass),
      (by decide : ValidText githubDeleteRefCredentialClass),
      (by decide : ValidText mutationReversibleEffectClass),
      (by decide : ValidText denyAllNetworkDefault),
      (by decide : ValidText readThenDeleteNonAtomic), (by decide : ValidText "r1"),
      List.forall_mem_nil _⟩

theorem boundaryOf_created {runner : RunnerIdentity} (runnerId : IsDigest runner.runnerId)
    (identityDigest : IsDigest runner.identityDigest)
    (runnerClass : runner.runnerClass = writeRunnerClass)
    (environment : runner.environment = stagingEnvironment) :
    RunnerBoundaryV3.create sha256.hexdigest runner leased.lease (capsule sha256)
      (definition sha256) (requirement sha256) (condition sha256) "r1" =
        .ok (boundaryOf leased runner) := by
  simp only [RunnerBoundaryV3.create, RunnerIdentity.assertBoundToLease, bind_eq_ok, raiseIf_eq_ok,
    not_or, not_not, requireText_eq_ok, pure_eq_ok]
  rw [runnerClass, environment]
  exact ⟨(), ⟨(), leased.runnerClass, leased.staging⟩, (), rfl, (),
    ⟨leased.staging, leased.ofCapsule.symm⟩, (), ⟨rfl, rfl⟩, (), rfl, (), ⟨rfl, rfl⟩, (), rfl, "r1",
    ⟨rfl, by decide⟩, (), boundaryOf_checked leased runnerId identityDigest, rfl⟩

theorem boundary_created : RunnerBoundaryV3.create sha256.hexdigest (identity sha256) leased.lease
    (capsule sha256) (definition sha256) (requirement sha256) (condition sha256) "r1" =
      .ok (boundary leased) :=
  boundaryOf_created leased (sha256.isDigest _) (sha256.isDigest _) rfl rfl

/-- The decision for one minute, without its digest. -/
def decisionDraft : CredentialAccessDecisionV3 where
  decisionId :=
    CredentialAccessDecisionV3.identity sha256.hexdigest
    (boundary leased).boundaryDigest (policy sha256).policyDigest sampleTime.isoformat
    minuteLater.isoformat
  runnerBoundaryDigest := (boundary leased).boundaryDigest
  runnerId := (identity sha256).runnerId
  runnerIdentityDigest := (identity sha256).identityDigest
  leaseId := leased.lease.leaseId
  leaseDigest := leased.lease.leaseDigest
  executionId := leased.lease.executionId
  executionEpoch := .int leased.lease.executionEpoch
  executionCapsuleDigest := (capsule sha256).capsuleDigest
  capabilityDefinitionIdentity := (definition sha256).definitionIdentity
  rollbackRequirementDigest := (requirement sha256).requirementDigest
  credentialClass := githubDeleteRefCredentialClass
  provider := githubProvider
  audience := githubApiAudience
  environment := stagingEnvironment
  accessMode := writeBoundedAccessMode
  providerOperation := deleteRefOperation
  providerMutationAllowed := .bool true
  maxProviderMutations := .int 1
  validFrom := sampleTime.isoformat
  expiresAt := minuteLater.isoformat
  policyDigest := (policy sha256).policyDigest
  policyRevision := "r1"
  decisionRevision := "r1"
  decisionDigest := ""

def decision : CredentialAccessDecisionV3 :=
  sha256.finish CredentialAccessDecisionV3.contract (decisionDraft leased)

theorem decision_created : CredentialAccessDecisionV3.contract.create sha256.hexdigest
    (decisionDraft leased) = .ok (decision leased) := by
  have digest := sha256.passes ""
  have own (text : String) := sha256.passes text
  obtain ⟨leaseId, leaseDigest, admissionId⟩ := leased.digest_passes
  refine Contract.create_of_holds CredentialAccessDecisionV3.lawful _
    (decision leased).decisionDigest rfl (fun self reads => ?_) ?_
  · simp only [CredentialAccessDecisionV3.contract, Contract.fieldsWith, Contract.claimFields,
      CredentialAccessDecisionV3.claims, decisionDraft, List.cons_append, List.nil_append,
      List.forall_mem_cons] at reads
    simp only [CredentialAccessDecisionV3.contract, requireTexts, requireDigests,
      uncheckedAttribute, List.map_cons,
      List.map_nil, List.cons_append, List.nil_append, List.forall_mem_cons,
      AttributeCheck.Holds, Attributes.text, Json.text?, reads, Option.getD_some, true_and]
    exact ⟨own _, own _, own _, own _, leaseId, leaseDigest, own _, own _, own _, own _, own _,
      leased.validText_executionId, by decide, by decide, by decide, by decide, by decide,
      by decide, by decide, by decide, leased.positiveEpoch,
      ⟨validText_sampleTime, sampleTime, rfl⟩, ⟨validText_minuteLater, minuteLater, rfl⟩,
      List.forall_mem_nil _⟩
  · simp only [CredentialAccessDecisionV3.contract, bind_eq_ok, raiseIf_eq_ok, not_or, not_not]
    exact ⟨sampleTime, requireTimestamp_eq_ok.mpr ⟨rfl, validText_sampleTime⟩, minuteLater,
      requireTimestamp_eq_ok.mpr ⟨rfl, validText_minuteLater⟩, (), by decide, (), ⟨rfl, rfl, rfl⟩,
      (), ⟨rfl, rfl, rfl⟩, rfl, fun never => Bool.noConfusion never⟩

/-- The delivery at the start of the decision, without its digest. -/
def deliveryDraft : EphemeralRollbackCredentialDelivery where
  runnerId := (identity sha256).runnerId
  runnerBoundaryDigest := (boundary leased).boundaryDigest
  credentialDecisionId := (decision leased).decisionId
  credentialDecisionDigest := (decision leased).decisionDigest
  providerInstanceId := "runner_1"
  credentialProvider := githubProvider
  credentialClass := githubDeleteRefCredentialClass
  audience := githubApiAudience
  accessMode := writeBoundedAccessMode
  providerOperation := deleteRefOperation
  deliveryChannelIdentity := outOfBandRollbackCredentialChannel
  deliveredAt := sampleTime.isoformat
  clockWitnessDigest := sha256.someDigest
  secretMaterialExposed := .bool false
  deliveryRevision := "r1"
  deliveryDigest := ""

def delivery : EphemeralRollbackCredentialDelivery :=
  sha256.finish EphemeralRollbackCredentialDelivery.contract (deliveryDraft leased)

theorem delivery_created : EphemeralRollbackCredentialDelivery.contract.create sha256.hexdigest
    (deliveryDraft leased) = .ok (delivery leased) := by
  have digest := sha256.passes ""
  have own (text : String) := sha256.passes text
  refine Contract.create_of_holds EphemeralRollbackCredentialDelivery.lawful _
    (delivery leased).deliveryDigest rfl (fun self reads => ?_) rfl
  simp only [EphemeralRollbackCredentialDelivery.contract, Contract.fieldsWith,
    Contract.claimFields, EphemeralRollbackCredentialDelivery.claims, deliveryDraft,
    List.cons_append, List.nil_append, List.forall_mem_cons] at reads
  simp only [EphemeralRollbackCredentialDelivery.contract, requireTexts, requireDigests,
    List.map_cons, List.map_nil, List.cons_append, List.nil_append, List.forall_mem_cons,
    AttributeCheck.Holds, Attributes.text, Json.text?, reads, Option.getD_some, true_and]
  exact ⟨own _, own _, own _, own _, digest, own _, by decide, by decide, by decide, by decide,
    by decide, by decide, by decide, by decide, ⟨validText_sampleTime, sampleTime, rfl⟩, rfl,
    List.forall_mem_nil _⟩

def activationDraft : RollbackWriteRuntimeActivation where
  runnerId := (identity sha256).runnerId
  runnerBoundaryDigest := (boundary leased).boundaryDigest
  credentialDecisionDigest := (decision leased).decisionDigest
  credentialDeliveryDigest := (delivery leased).deliveryDigest
  leaseId := leased.lease.leaseId
  leaseDigest := leased.lease.leaseDigest
  executionId := leased.lease.executionId
  executionEpoch := leased.lease.executionEpoch
  capabilityDefinitionIdentity := (definition sha256).definitionIdentity
  rollbackRequirementDigest := (requirement sha256).requirementDigest
  providerInstanceId := "runner_1"
  accessMode := writeBoundedAccessMode
  providerOperation := deleteRefOperation
  providerMutationAllowed := .bool true
  maxProviderMutations := .int 1
  temporalModel := readThenDeleteNonAtomic
  activationRevision := "r1"
  activationDigest := ""

def activation : RollbackWriteRuntimeActivation :=
  sha256.finish RollbackWriteRuntimeActivation.contract (activationDraft leased)

theorem activation_created : RollbackWriteRuntimeActivation.contract.create sha256.hexdigest
    (activationDraft leased) = .ok (activation leased) := by
  have digest := sha256.passes ""
  have own (text : String) := sha256.passes text
  obtain ⟨leaseId, leaseDigest, admissionId⟩ := leased.digest_passes
  refine Contract.create_of_holds RollbackWriteRuntimeActivation.lawful _
    (activation leased).activationDigest rfl (fun self reads => ?_) rfl
  simp only [RollbackWriteRuntimeActivation.contract, Contract.fieldsWith, Contract.claimFields,
    RollbackWriteRuntimeActivation.claims, activationDraft, List.cons_append, List.nil_append,
    List.forall_mem_cons] at reads
  simp only [RollbackWriteRuntimeActivation.contract, requireTexts, requireDigests, List.map_cons,
    List.map_nil, List.cons_append, List.nil_append, List.forall_mem_cons, AttributeCheck.Holds,
    Attributes.text, Attributes.int, Json.text?, reads, Option.getD_some, true_and]
  exact ⟨own _, own _, own _, own _, leaseId, leaseDigest, own _, own _, own _,
    leased.validText_executionId, by decide, by decide, by decide, by decide, by decide,
    leased.one_le_epoch, rfl, rfl, List.forall_mem_nil _⟩

def requestDraft : GitHubDeleteRefRequest where
  repository := "acme/one"
  ref := "refs/heads/vone-canary/one"
  expectedSha := commit
  targetDigest := (target sha256).targetDigest
  runnerBoundaryDigest := (boundary leased).boundaryDigest
  credentialDecisionDigest := (decision leased).decisionDigest
  conditionContractDigest := (condition sha256).contractDigest
  requestRevision := "r1"
  requestDigest := ""

def request : GitHubDeleteRefRequest :=
  sha256.finish GitHubDeleteRefRequest.contract (requestDraft leased)

theorem request_created : GitHubDeleteRefRequest.contract.create sha256.hexdigest
    (requestDraft leased) = .ok (request leased) := by
  have digest := sha256.passes ""
  have own (text : String) := sha256.passes text
  refine Contract.create_of_holds GitHubDeleteRefRequest.lawful _ (request leased).requestDigest rfl
    (fun self reads => ?_) rfl
  simp only [GitHubDeleteRefRequest.contract, Contract.fieldsWith, Contract.claimFields,
    GitHubDeleteRefRequest.claims, requestDraft, List.cons_append, List.nil_append,
    List.forall_mem_cons] at reads
  simp only [GitHubDeleteRefRequest.contract, requireTexts, requireDigests, List.map_cons,
    List.map_nil, List.cons_append, List.nil_append, List.forall_mem_cons, AttributeCheck.Holds,
    Attributes.text, Json.text?, reads, Option.getD_some, true_and]
  exact ⟨by decide, by decide, validText_commit, requireRepositoryForm_str.mpr (by decide),
    requireCanaryRefForm_ref, requireSha1Form_commit _, own _, own _, own _, own _, own _,
    by decide, List.forall_mem_nil _⟩

/-- The preflight one minute after the end of the decision, without its digest. -/
def preflightDraft : RollbackWriteEffectPreflight where
  requestDigest := (request leased).requestDigest
  targetDigest := (target sha256).targetDigest
  runnerBoundaryDigest := (boundary leased).boundaryDigest
  credentialDecisionDigest := (decision leased).decisionDigest
  runtimeActivationDigest := (activation leased).activationDigest
  conditionContractDigest := (condition sha256).contractDigest
  observedRefSha := commit
  predeleteObservationDigest := sha256.someDigest
  providerOperation := deleteRefOperation
  temporalModel := readThenDeleteNonAtomic
  providerMutationAllowed := .bool true
  maxProviderMutations := .int 1
  checkedAt := twoMinutesLater.isoformat
  clockWitnessDigest := sha256.someDigest
  preflightRevision := "r1"
  preflightDigest := ""

/-- The preflight one minute after the end of the decision. -/
def preflight : RollbackWriteEffectPreflight :=
  sha256.finish RollbackWriteEffectPreflight.contract (preflightDraft leased)

theorem preflight_created : RollbackWriteEffectPreflight.contract.create sha256.hexdigest
    (preflightDraft leased) = .ok (preflight leased) := by
  have digest := sha256.passes ""
  have own (text : String) := sha256.passes text
  refine Contract.create_of_holds RollbackWriteEffectPreflight.lawful _
    (preflight leased).preflightDigest rfl (fun self reads => ?_) rfl
  simp only [RollbackWriteEffectPreflight.contract, Contract.fieldsWith, Contract.claimFields,
    RollbackWriteEffectPreflight.claims, preflightDraft, List.cons_append, List.nil_append,
    List.forall_mem_cons] at reads
  simp only [RollbackWriteEffectPreflight.contract, requireTexts, requireDigests, List.map_cons,
    List.map_nil, List.cons_append, List.nil_append, List.forall_mem_cons, AttributeCheck.Holds,
    Attributes.text, Json.text?, reads, Option.getD_some, true_and]
  exact ⟨own _, own _, own _, own _, own _, own _, digest, digest, own _, validText_commit,
    requireSha1Form_commit _, by decide, by decide, by decide,
    ⟨validText_twoMinutesLater, twoMinutesLater, rfl⟩, rfl, rfl, List.forall_mem_nil _⟩

theorem decision_returned : CredentialAccessDecisionV3.create sha256.hexdigest (boundary leased)
    (policy sha256) sampleTime.isoformat minuteLater.isoformat "r1" = .ok (decision leased) := by
  have lifetime : ¬(minuteLater ≤ sampleTime ∨
      minuteLater.milliseconds - sampleTime.milliseconds > 300 * 1000) := by decide
  simp only [CredentialAccessDecisionV3.create, bind_eq_ok, raiseIf_eq_ok, not_or, not_not,
    requireText_eq_ok]
  exact ⟨sampleTime, requireTimestamp_eq_ok.mpr ⟨rfl, validText_sampleTime⟩, minuteLater,
    requireTimestamp_eq_ok.mpr ⟨rfl, validText_minuteLater⟩, (), not_or.mp lifetime, (), ⟨rfl, rfl⟩,
    (), rfl, "r1", ⟨rfl, by decide⟩, decision_created leased⟩

theorem delivery_returned : EphemeralRollbackCredentialDelivery.create sha256.hexdigest
    (boundary leased) (decision leased) "runner_1" sampleTime.isoformat sha256.someDigest "r1" =
      .ok (delivery leased) := by
  simp only [EphemeralRollbackCredentialDelivery.create, bind_eq_ok, raiseIf_eq_ok, not_not,
    requireText_eq_ok, requireDigestFields_eq_ok]
  exact ⟨(), rfl, sampleTime, requireTimestamp_eq_ok.mpr ⟨rfl, validText_sampleTime⟩, sampleTime,
    requireTimestamp_eq_ok.mpr ⟨rfl, validText_sampleTime⟩, minuteLater,
    requireTimestamp_eq_ok.mpr ⟨rfl, validText_minuteLater⟩, (), ⟨le_refl _, by decide⟩, "runner_1",
    ⟨rfl, by decide⟩, (), List.forall_mem_singleton.mpr (sha256.isDigest _), "r1",
    ⟨rfl, by decide⟩, delivery_created leased⟩

theorem activation_returned : RollbackWriteRuntimeActivation.create sha256.hexdigest
    (boundary leased) (decision leased) (delivery leased) "r1" = .ok (activation leased) := by
  simp only [RollbackWriteRuntimeActivation.create, bind_eq_ok, raiseIf_eq_ok, not_not,
    requireText_eq_ok]
  exact ⟨(), rfl, (), rfl, (), rfl, "r1", ⟨rfl, by decide⟩, activation_created leased⟩

theorem request_returned : GitHubDeleteRefRequest.create sha256.hexdigest (target sha256)
    (boundary leased) (decision leased) (condition sha256) "r1" = .ok (request leased) := by
  obtain ⟨keys, found, perm⟩ := Json.keys_object (targetFields sha256)
  have exactly : HasExactly ((target sha256).targetClaims.keys.getD [])
      GitHubDeleteRefRequest.targetClaimNames := by
    rw [targetClaims_eq, found, Option.getD_some]
    exact ⟨fun name member => perm.mem_iff.mp member, fun name member => perm.mem_iff.mpr member⟩
  have get (entry : String × Json) (member : entry ∈ targetFields sha256) :
      (target sha256).targetClaims.get entry.1 = entry.2 := by
    rw [targetClaims_eq]
    exact Json.get_object_of_mem (targetFields_distinct sha256) member
  have repository := get ("repository", .str "acme/one") (by simp [targetFields])
  have ref := get ("ref", .str "refs/heads/vone-canary/one") (by simp [targetFields])
  have expected := get ("expected_sha", .str commit) (by simp [targetFields])
  have response := get ("original_create_response_digest", .str sha256.someDigest)
    (by simp [targetFields])
  have result := get ("original_verification_result_digest", .str sha256.someDigest)
    (by simp [targetFields])
  simp only [GitHubDeleteRefRequest.create, bind_eq_ok, raiseIf_eq_ok, not_or, not_not,
    requireText_eq_ok]
  exact ⟨(), ⟨rfl, exactly⟩, (), ⟨repository, ref, expected⟩, (), ⟨response, result⟩, (),
    ⟨rfl, rfl⟩, "r1", ⟨rfl, by decide⟩, request_created leased⟩

theorem preflight_returned : RollbackWriteEffectPreflight.create sha256.hexdigest (request leased)
    (target sha256) (boundary leased) (decision leased) (activation leased) (condition sha256)
    commit sha256.someDigest twoMinutesLater.isoformat sha256.someDigest "r1" =
      .ok (preflight leased) := by
  simp only [RollbackWriteEffectPreflight.create, requireSha1, bind_eq_ok, raiseIf_eq_ok, not_or,
    not_not, requireText_eq_ok, requireDigestFields_eq_ok]
  exact ⟨(), rfl, (), rfl, (), rfl, (), rfl, (), rfl, (), rfl, (),
    ⟨commit, ⟨rfl, validText_commit⟩, requireSha1Form_commit _⟩, (), ⟨rfl, rfl⟩, (),
    List.forall_mem_singleton.mpr (sha256.isDigest _), twoMinutesLater.isoformat,
    ⟨rfl, validText_twoMinutesLater⟩, (), List.forall_mem_singleton.mpr (sha256.isDigest _), "r1",
    ⟨rfl, by decide⟩, twoMinutesLater,
    requireTimestamp_eq_ok.mpr ⟨rfl, validText_twoMinutesLater⟩, preflight_created leased⟩

/-- The preflight with everything that it comes from. -/
def evidence : RollbackEvidence sha256.hexdigest where
  preflight := preflight leased
  preflightRequest := ⟨request leased, target sha256, boundary leased, decision leased,
    activation leased, condition sha256, commit, sha256.someDigest, twoMinutesLater.isoformat,
    sha256.someDigest, "r1"⟩
  deletionRequest := ⟨target sha256, boundary leased, decision leased, condition sha256, "r1"⟩
  activationRequest := ⟨boundary leased, decision leased, delivery leased, "r1"⟩
  deliveryRequest := ⟨boundary leased, decision leased, "runner_1", sampleTime.isoformat,
    sha256.someDigest, "r1"⟩
  decisionRequest := ⟨boundary leased, policy sha256, sampleTime.isoformat, minuteLater.isoformat,
    "r1"⟩
  preflightCreated := preflight_returned leased
  requestCreated := request_returned leased
  activationCreated := activation_returned leased
  deliveryCreated := delivery_returned leased
  decisionCreated := decision_returned leased
  boundaries := by
    have created : (boundary leased).Created sha256.hexdigest :=
      ⟨_, _, _, _, _, _, _, boundary_created leased⟩
    simp only [List.forall_mem_cons]
    exact ⟨created, created, created, created, List.forall_mem_nil _⟩
  decisions := by
    have created : (decision leased).Created sha256.hexdigest :=
      ⟨_, _, _, _, _, ⟨_, _, _, _, _, _, _, boundary_created leased⟩, decision_returned leased⟩
    simp only [List.forall_mem_cons]
    exact ⟨created, created, List.forall_mem_nil _⟩
  conditions := by
    simp only [List.forall_mem_cons]
    exact ⟨⟨_, condition_created sha256⟩, ⟨_, condition_created sha256⟩, List.forall_mem_nil _⟩
  targets := by
    simp only [List.forall_mem_cons]
    exact ⟨⟨target_created sha256, target_wellFormed sha256⟩,
      ⟨target_created sha256, target_wellFormed sha256⟩, List.forall_mem_nil _⟩

theorem late : ¬(evidence leased).Confined := by
  intro confined
  obtain ⟨_, _, checked, stop, -, -, checkedIs, stopIs, -, -, before⟩ := confined.window
  have checkedAt : checked = twoMinutesLater := (Instant.isoformat_injective checkedIs).symm
  have stopAt : stop = minuteLater := (Instant.isoformat_injective stopIs).symm
  rw [checkedAt, stopAt] at before
  exact absurd before (by decide)

variable (sha256)

/-- The lease of one minute, without its digest. -/
def leaseDraft : ExecutionLease where
  leaseId := leaseId sha256.hexdigest sha256.someDigest 1
  dispatchId := sha256.someDigest
  admissionId := sha256.someDigest
  admissionDigest := sha256.someDigest
  executionId := "exec_1"
  workspaceId := "ws_1"
  environment := stagingEnvironment
  executionCapsuleDigest := (capsule sha256).capsuleDigest
  runnerClass := writeRunnerClass
  executionEpoch := 1
  acquiredAt := sampleTime.isoformat
  expiresAt := minuteLater.isoformat
  clockWitnessDigest := sha256.someDigest
  leaseRevision := "r1"
  leaseDigest := ""

def lease : ExecutionLease := sha256.finish ExecutionLease.contract (leaseDraft sha256)

theorem lease_created : ExecutionLease.contract.create sha256.hexdigest
    (leaseDraft sha256) = .ok (lease sha256) := by
  have digest := sha256.passes ""
  have own (text : String) := sha256.passes text
  refine Contract.create_of_holds ExecutionLease.lawful _ (lease sha256).leaseDigest rfl
    (fun self reads => ?_) ?_
  · simp only [ExecutionLease.contract, Contract.fieldsWith, Contract.claimFields,
      ExecutionLease.claims, leaseDraft, List.cons_append, List.nil_append,
      List.forall_mem_cons] at reads
    simp only [ExecutionLease.contract, requireTexts, requireDigests, requireEpochOf,
      List.map_cons, List.map_nil,
      List.cons_append, List.nil_append, List.forall_mem_cons, AttributeCheck.Holds,
      Attributes.text, Attributes.int, Json.text?, reads, Option.getD_some, true_and]
    exact ⟨by decide, by decide, by decide, by decide, by decide, own _, digest, digest, digest,
      own _, digest, own _, Int.le_refl 1, validText_sampleTime, validText_minuteLater,
      List.forall_mem_nil _⟩
  · simp only [ExecutionLease.contract, bind_eq_ok, raiseIf_eq_ok]
    exact ⟨sampleTime, requireTimestamp_eq_ok.mpr ⟨rfl, validText_sampleTime⟩, minuteLater,
      requireTimestamp_eq_ok.mpr ⟨rfl, validText_minuteLater⟩, (), by decide, (), by decide,
      fun other => other rfl⟩

def oneMinute : RollbackLease sha256 where
  lease := lease sha256
  built := ⟨_, lease_created sha256⟩
  staging := rfl
  runnerClass := rfl
  ofCapsule := rfl

end LatePreflight

/-- Whatever the digest function, a preflight is made although the decision has ended. -/
theorem rollbackPreflight_not_confined :
    ¬∃ sha256 : Sha256, ∀ evidence : RollbackEvidence sha256.hexdigest, evidence.Confined := by
  rintro ⟨sha256, confined⟩
  exact LatePreflight.late _ (confined (LatePreflight.evidence (LatePreflight.oneMinute sha256)))

end VoodooOne
