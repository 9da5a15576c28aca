import VoodooOne.Verification.Absence
import VoodooOne.Verification.Readback

/-!
# Verification of absence

A verification of absence looks at the digests that link its evidence.  What its artifacts say of
one another is therefore known from how they were created, up to texts that share a digest.
-/

namespace VoodooOne

open Calendar

/-- The state in which a verifier found no reference. -/
def absentStateDraft (verifier : VerifierGitHubRefAbsenceObservation)
    (boundary : IndependentVerificationBoundaryV2) (revision : String) : ObservedPostState where
  executionId := boundary.executionId
  executionEpoch := boundary.executionEpoch
  targetDigest := boundary.targetDigest
  stateKind := gitRefStateKind
  stateClaims := [("repository", verifier.repository), ("ref", verifier.ref),
    ("presence", absent), ("http_status", "404")]
  provider := githubProvider
  providerInstanceId := verifier.providerInstanceId
  sourceIdentity := verifier.sourceIdentity
  verifierId := verifier.verifierId
  verifierIdentityDigest := verifier.verifierIdentityDigest
  verificationBoundaryDigest := boundary.boundaryDigest
  verifierObservationDigest := verifier.observationDigest
  observedAt := verifier.observedAt
  stateRevision := revision
  stateDigest := ""

def absenceResultDraft (runner : GitHubRefAbsenceObservation)
    (verifier : VerifierGitHubRefAbsenceObservation)
    (boundary : IndependentVerificationBoundaryV2) (state : ObservedPostState)
    (strength : VerificationStrength) (revision : String) : VerificationResult where
  executionId := boundary.executionId
  executionEpoch := boundary.executionEpoch
  targetDigest := boundary.targetDigest
  runnerObservationDigest := runner.observationDigest
  verifierObservationDigest := verifier.observationDigest
  observedPostStateDigest := state.stateDigest
  verificationBoundaryDigest := boundary.boundaryDigest
  verifierId := verifier.verifierId
  verifierIdentityDigest := verifier.verifierIdentityDigest
  verificationStrengthDigest := strength.strengthDigest
  verificationStrengthClass := strength.strengthClass
  verdict := verified
  reason := observedStateMatch
  checkedAt := verifier.observedAt
  resultRevision := revision
  resultDigest := ""

def verifyGithubRefAbsence (sha256 : String → String) (runner : GitHubRefAbsenceObservation)
    (verifier : VerifierGitHubRefAbsenceObservation)
    (boundary : IndependentVerificationBoundaryV2) (revisions : ReadbackEvidence.Revisions) :
    Except Raised (ObservedPostState × VerificationStrength × VerificationResult) := do
  raiseIf (boundary.runnerObservationDigest ≠ runner.observationDigest)
    ⟨.permissionError, "ROLLBACK_VERIFICATION_RUNNER_BINDING_MISMATCH"⟩
  raiseIf (verifier.verificationBoundaryDigest ≠ boundary.boundaryDigest)
    ⟨.permissionError, "ROLLBACK_VERIFICATION_BOUNDARY_MISMATCH"⟩
  raiseIf (verifier.runnerObservationDigest ≠ runner.observationDigest)
    ⟨.permissionError, "ROLLBACK_VERIFICATION_OBSERVATION_BINDING_MISMATCH"⟩
  raiseIf (verifier.repository ≠ runner.repository ∨ verifier.ref ≠ runner.ref ∨
      verifier.targetDigest ≠ runner.targetDigest)
    ⟨.permissionError, "ROLLBACK_VERIFICATION_TARGET_MISMATCH"⟩
  raiseIf (runner.presence ≠ absent ∨ verifier.presence ≠ absent)
    ⟨.permissionError, "ROLLBACK_VERIFICATION_ABSENCE_NOT_PROVEN"⟩
  let _ ← requireText (.str revisions.observedPostStateRevision) "observed_post_state_revision"
  let state ← ObservedPostState.create sha256
    (absentStateDraft verifier boundary revisions.observedPostStateRevision)
  let _ ← requireText (.str revisions.strengthRevision) "strength_revision"
  let strength ← VerificationStrength.create sha256 boundary.boundaryDigest
    verifier.observationDigest revisions.strengthRevision
  let _ ← requireText (.str revisions.resultRevision) "result_revision"
  let result ← VerificationResult.contract.create sha256
    (absenceResultDraft runner verifier boundary state strength revisions.resultRevision)
  return (state, strength, result)

variable {sha256 : String → String}

theorem GitHubRefAbsenceObservation.delimited {observation : GitHubRefAbsenceObservation}
    (built : GitHubRefAbsenceObservation.contract.Built sha256 observation) :
    ∀ field ∈ GitHubRefAbsenceObservation.contract.claims observation,
      Delimited (render field.2) := by
  have checked : .satisfies "http_status"
      (requireNotFound "absence observation requires provider 404 / ABSENT") ∈
        GitHubRefAbsenceObservation.contract.checks := by
    simp [GitHubRefAbsenceObservation.contract]
  have status : requireNotFound _ observation.httpStatus = .ok () :=
    built.held GitHubRefAbsenceObservation.lawful checked
      (by simp [GitHubRefAbsenceObservation.contract, GitHubRefAbsenceObservation.claims,
        AttributeCheck.field])
  rw [requireNotFound, raiseIf_eq_ok, Bool.not_eq_false] at status
  simp only [GitHubRefAbsenceObservation.contract, GitHubRefAbsenceObservation.claims,
    List.forall_mem_cons, delimited_str, delimited_int, delimited_of_equalsInt status, true_and]
  exact List.forall_mem_nil _

theorem IndependentVerificationBoundaryV2.delimited {boundary : IndependentVerificationBoundaryV2}
    (built : IndependentVerificationBoundaryV2.contract.Built sha256 boundary) :
    ∀ field ∈ IndependentVerificationBoundaryV2.contract.claims boundary,
      Delimited (render field.2) := by
  have checked : .satisfies "provider_mutation_allowed"
      (requireTruth false "verifier boundary cannot mutate providers") ∈
        IndependentVerificationBoundaryV2.contract.checks := by
    simp [IndependentVerificationBoundaryV2.contract]
  have mutation : requireTruth false _ boundary.providerMutationAllowed = .ok () :=
    built.held IndependentVerificationBoundaryV2.lawful checked
      (by simp [IndependentVerificationBoundaryV2.contract,
        IndependentVerificationBoundaryV2.claims, AttributeCheck.field])
  rw [requireTruth, raiseIf_eq_ok, not_not] at mutation
  simp only [IndependentVerificationBoundaryV2.contract, IndependentVerificationBoundaryV2.claims,
    List.forall_mem_cons, delimited_str, delimited_int, mutation, delimited_bool, true_and]
  exact List.forall_mem_nil _

theorem GitHubRefAbsenceObservation.same_or_collision {left right : GitHubRefAbsenceObservation}
    (leftBuilt : GitHubRefAbsenceObservation.contract.Built sha256 left)
    (rightBuilt : GitHubRefAbsenceObservation.contract.Built sha256 right)
    (digests : left.observationDigest = right.observationDigest) :
    (left.targetDigest = right.targetDigest ∧ left.runnerId = right.runnerId ∧
      left.runnerBoundaryDigest = right.runnerBoundaryDigest ∧ left.observedAt = right.observedAt) ∨
      Collision sha256 (GitHubRefAbsenceObservation.contract.digestText left)
        (GitHubRefAbsenceObservation.contract.digestText right) := by
  refine (Contract.claims_eq_or_collision lawful leftBuilt rightBuilt (delimited leftBuilt)
    (delimited rightBuilt) digests).imp_left fun same => ?_
  simp only [contract, claims, fieldTexts, List.map_cons, List.cons.injEq, Prod.mk.injEq,
    render_str_inj, true_and] at same
  obtain ⟨-, -, target, -, -, runner, -, boundary, -, -, -, -, -, observedAt, -⟩ := same
  exact ⟨target, runner, boundary, observedAt⟩

/-- Boundaries of one digest agree, or their texts are a collision. -/
theorem IndependentVerificationBoundaryV2.same_or_collision
    {left right : IndependentVerificationBoundaryV2}
    (leftBuilt : IndependentVerificationBoundaryV2.contract.Built sha256 left)
    (rightBuilt : IndependentVerificationBoundaryV2.contract.Built sha256 right)
    (digests : left.boundaryDigest = right.boundaryDigest) :
    (left.verifierIdentityDigest = right.verifierIdentityDigest ∧
      left.executionId = right.executionId ∧ left.executionEpoch = right.executionEpoch ∧
        left.targetDigest = right.targetDigest) ∨
      Collision sha256 (IndependentVerificationBoundaryV2.contract.digestText left)
        (IndependentVerificationBoundaryV2.contract.digestText right) := by
  refine (Contract.claims_eq_or_collision lawful leftBuilt rightBuilt (delimited leftBuilt)
    (delimited rightBuilt) digests).imp_left fun same => ?_
  simp only [contract, claims, fieldTexts, List.map_cons, List.cons.injEq, Prod.mk.injEq,
    render_str_inj, render_int_inj, true_and] at same
  obtain ⟨-, identity, -, -, -, -, -, -, -, execution, epoch, target, -⟩ := same
  exact ⟨identity, execution, epoch, target⟩

theorem VerifierIdentity.same_or_collision {left right : VerifierIdentity}
    (leftBuilt : VerifierIdentity.contract.Built sha256 left)
    (rightBuilt : VerifierIdentity.contract.Built sha256 right)
    (digests : left.identityDigest = right.identityDigest) :
    (left.verifierId = right.verifierId ∧ left.providerInstanceId = right.providerInstanceId) ∨
      Collision sha256 (VerifierIdentity.contract.digestText left)
        (VerifierIdentity.contract.digestText right) := by
  refine (Contract.claims_eq_or_collision lawful leftBuilt rightBuilt left.delimited
    right.delimited digests).imp_left fun same => ?_
  simp only [contract, claims, fieldTexts, List.map_cons, List.cons.injEq, Prod.mk.injEq,
    render_str_inj, true_and] at same
  obtain ⟨verifier, -, -, providerInstance, -⟩ := same
  exact ⟨verifier, providerInstance⟩

/-- What a runner's observation of absence is created from. -/
structure RunnerReading where
  target : ExecutionTarget
  identity : RunnerIdentity
  boundary : RunnerBoundaryV3
  (providerInstanceId sourceIdentity observedAt observationRevision : String)

structure BoundaryRequest where
  verifier : VerifierIdentity
  identity : RunnerIdentity
  boundary : RunnerBoundaryV3
  observation : GitHubRefAbsenceObservation
  boundaryRevision : String

/-- What a verifier's credential decision is created from. -/
structure DecisionRequest where
  verifier : VerifierIdentity
  boundary : IndependentVerificationBoundaryV2
  policy : VerifierCredentialPolicy
  (validFrom expiresAt decisionRevision : String)

/-- What a verifier's observation of absence is created from. -/
structure VerifierReading where
  observation : GitHubRefAbsenceObservation
  verifier : VerifierIdentity
  boundary : IndependentVerificationBoundaryV2
  decision : VerifierCredentialDecisionV2
  (sourceIdentity observedAt observationRevision : String)

/-- Evidence of absence: three artifacts and the credential decision of the verifier, each returned
by its own `create` on arguments that their constructors returned. -/
structure AbsenceEvidence (sha256 : String → String) where
  runner : GitHubRefAbsenceObservation
  boundary : IndependentVerificationBoundaryV2
  decision : VerifierCredentialDecisionV2
  verifier : VerifierGitHubRefAbsenceObservation
  runnerReading : RunnerReading
  boundaryRequest : BoundaryRequest
  decisionRequest : DecisionRequest
  verifierReading : VerifierReading
  /-- The decision under which the verifier read. -/
  ofDecision : verifierReading.decision = decision
  runnerCreated : GitHubRefAbsenceObservation.create sha256 runnerReading.target
    runnerReading.identity runnerReading.boundary runnerReading.providerInstanceId
    runnerReading.sourceIdentity runnerReading.observedAt runnerReading.observationRevision =
      .ok runner
  boundaryCreated : IndependentVerificationBoundaryV2.create sha256 boundaryRequest.verifier
    boundaryRequest.identity boundaryRequest.boundary boundaryRequest.observation
    boundaryRequest.boundaryRevision = .ok boundary
  decisionCreated : VerifierCredentialDecisionV2.create sha256 decisionRequest.verifier
    decisionRequest.boundary decisionRequest.policy decisionRequest.validFrom
    decisionRequest.expiresAt decisionRequest.decisionRevision = .ok decision
  verifierCreated : VerifierGitHubRefAbsenceObservation.create sha256 verifierReading.observation
    verifierReading.verifier verifierReading.boundary verifierReading.decision
    verifierReading.sourceIdentity verifierReading.observedAt verifierReading.observationRevision =
      .ok verifier
  runnerIdentities : ∀ identity ∈ [runnerReading.identity, boundaryRequest.identity],
    RunnerIdentity.contract.Built sha256 identity
  runnerBoundaries : ∀ boundary ∈ [runnerReading.boundary, boundaryRequest.boundary],
    boundary.postInit sha256 = .ok ()
  observations : ∀ observation ∈ [boundaryRequest.observation, verifierReading.observation],
    GitHubRefAbsenceObservation.contract.Built sha256 observation
  verifiers : ∀ verifier ∈ [boundaryRequest.verifier, decisionRequest.verifier,
    verifierReading.verifier], VerifierIdentity.contract.Built sha256 verifier
  boundaries : ∀ boundary ∈ [decisionRequest.boundary, verifierReading.boundary],
    IndependentVerificationBoundaryV2.contract.Built sha256 boundary
  policyChecked : decisionRequest.policy.postInit sha256 = .ok ()

namespace AbsenceEvidence

variable {sha256 : String → String} (evidence : AbsenceEvidence sha256)

def verify (revisions : ReadbackEvidence.Revisions) :
    Except Raised (ObservedPostState × VerificationStrength × VerificationResult) :=
  verifyGithubRefAbsence sha256 evidence.runner evidence.verifier evidence.boundary revisions

/-- The canonical texts under the digests that link the evidence. -/
def digestTexts : List String :=
  [evidence.runner, evidence.boundaryRequest.observation, evidence.verifierReading.observation].map
      GitHubRefAbsenceObservation.contract.digestText ++
    [evidence.boundary, evidence.decisionRequest.boundary, evidence.verifierReading.boundary].map
      IndependentVerificationBoundaryV2.contract.digestText ++
    [evidence.boundaryRequest.verifier, evidence.decisionRequest.verifier,
      evidence.verifierReading.verifier].map VerifierIdentity.contract.digestText ++
    [evidence.runnerReading.identity, evidence.boundaryRequest.identity].map
      RunnerIdentity.contract.digestText ++
    [evidence.runnerReading.boundary, evidence.boundaryRequest.boundary].map fun boundary =>
      canonicalJson boundary.claims

/-- Two of the texts that differ have one digest. -/
def Collides : Prop :=
  ∃ left ∈ evidence.digestTexts, ∃ right ∈ evidence.digestTexts, Collision sha256 left right

/-- All artifacts agree on a field. -/
def Agree {α : Type} (runner boundary decision verifier : α) : Prop :=
  boundary = runner ∧ decision = runner ∧ verifier = runner

structure Independent : Prop where
  ofBoundary : evidence.verifier.verifierId = evidence.boundary.verifierId ∧
    evidence.verifier.verifierIdentityDigest = evidence.boundary.verifierIdentityDigest ∧
      evidence.verifier.providerInstanceId = evidence.boundary.verifierProviderInstanceId
  /-- It is not the runner that the runner's observation shows. -/
  apart : evidence.verifier.verifierId ≠ evidence.runner.runnerId ∧
    evidence.verifier.verifierIdentityDigest ≠ evidence.runner.runnerIdentityDigest ∧
      evidence.verifier.providerInstanceId ≠ evidence.runner.providerInstanceId
  /-- All name the same act. -/
  execution : Agree evidence.runner.executionId evidence.boundary.executionId
    evidence.decision.executionId evidence.verifier.executionId
  epoch : Agree evidence.runner.executionEpoch evidence.boundary.executionEpoch
    evidence.decision.executionEpoch evidence.verifier.executionEpoch
  target : Agree evidence.runner.targetDigest evidence.boundary.targetDigest
    evidence.decision.targetDigest evidence.verifier.targetDigest
  /-- The verifier read no earlier than the runner. -/
  order : ∃ runnerTime verifierTime : Instant,
    evidence.runner.observedAt = runnerTime.isoformat ∧
      evidence.verifier.observedAt = verifierTime.isoformat ∧ runnerTime ≤ verifierTime
  /-- It read while its credential decision was valid. -/
  window : ∃ start time stop : Instant, evidence.decision.validFrom = start.isoformat ∧
    evidence.verifier.observedAt = time.isoformat ∧ evidence.decision.expiresAt = stop.isoformat ∧
      start ≤ time ∧ time < stop

/-- The provider instance under which the runner's reading is created is not the verifier's. -/
def InstancesApart : Prop :=
  evidence.runnerReading.providerInstanceId ≠ evidence.verifierReading.verifier.providerInstanceId

/-- The time at which the verifier's reading is created is in the requested interval. -/
def InInterval : Prop :=
  evidence.decisionRequest.validFrom ≤ evidence.verifierReading.observedAt ∧
    evidence.verifierReading.observedAt < evidence.decisionRequest.expiresAt

variable {evidence}

theorem bound {revisions : ReadbackEvidence.Revisions}
    {artifacts : ObservedPostState × VerificationStrength × VerificationResult}
    (verified : evidence.verify revisions = .ok artifacts) :
    evidence.boundary.runnerObservationDigest = evidence.runner.observationDigest ∧
      evidence.verifier.verificationBoundaryDigest = evidence.boundary.boundaryDigest ∧
      evidence.verifier.runnerObservationDigest = evidence.runner.observationDigest ∧
      evidence.verifier.targetDigest = evidence.runner.targetDigest := by
  simp only [verify, verifyGithubRefAbsence, bind_eq_ok, raiseIf_eq_ok, not_or, not_not] at verified
  obtain ⟨_, runner, _, boundary, _, observation, _, ⟨-, -, target⟩, -⟩ := verified
  exact ⟨runner, boundary, observation, target⟩

theorem not_collision (free : ¬evidence.Collides) {left right : String}
    (leftMember : left ∈ evidence.digestTexts) (rightMember : right ∈ evidence.digestTexts) :
    ¬Collision sha256 left right :=
  fun collision => free ⟨left, leftMember, right, rightMember, collision⟩

theorem observation_text {observation : GitHubRefAbsenceObservation}
    (member : observation ∈ [evidence.runner, evidence.boundaryRequest.observation,
      evidence.verifierReading.observation]) :
    GitHubRefAbsenceObservation.contract.digestText observation ∈ evidence.digestTexts := by
  simp only [digestTexts, List.mem_append]
  exact .inl (.inl (.inl (.inl (List.mem_map_of_mem member))))

theorem boundary_text {boundary : IndependentVerificationBoundaryV2}
    (member : boundary ∈ [evidence.boundary, evidence.decisionRequest.boundary,
      evidence.verifierReading.boundary]) :
    IndependentVerificationBoundaryV2.contract.digestText boundary ∈ evidence.digestTexts := by
  simp only [digestTexts, List.mem_append]
  exact .inl (.inl (.inl (.inr (List.mem_map_of_mem member))))

theorem verifier_text {verifier : VerifierIdentity}
    (member : verifier ∈ [evidence.boundaryRequest.verifier, evidence.decisionRequest.verifier,
      evidence.verifierReading.verifier]) :
    VerifierIdentity.contract.digestText verifier ∈ evidence.digestTexts := by
  simp only [digestTexts, List.mem_append]
  exact .inl (.inl (.inr (List.mem_map_of_mem member)))

theorem runner_text {identity : RunnerIdentity}
    (member : identity ∈ [evidence.runnerReading.identity, evidence.boundaryRequest.identity]) :
    RunnerIdentity.contract.digestText identity ∈ evidence.digestTexts := by
  simp only [digestTexts, List.mem_append]
  exact .inl (.inr (List.mem_map_of_mem member))

theorem runnerBoundary_text {boundary : RunnerBoundaryV3}
    (member : boundary ∈ [evidence.runnerReading.boundary, evidence.boundaryRequest.boundary]) :
    canonicalJson boundary.claims ∈ evidence.digestTexts := by
  simp only [digestTexts, List.mem_append]
  exact .inr (List.mem_map_of_mem member)

/-- What the links by digest say of the arguments that the artifacts were created from. -/
structure Linked (evidence : AbsenceEvidence sha256) : Prop where
  runner : GitHubRefAbsenceObservation.Shows evidence.runner evidence.runnerReading.target
    evidence.runnerReading.identity evidence.runnerReading.boundary
    evidence.runnerReading.providerInstanceId evidence.runnerReading.observedAt
  boundary : IndependentVerificationBoundaryV2.Shows evidence.boundary
    evidence.boundaryRequest.verifier evidence.boundaryRequest.identity
    evidence.boundaryRequest.boundary evidence.boundaryRequest.observation
  decision : VerifierCredentialDecisionV2.Shows evidence.decision evidence.decisionRequest.verifier
    evidence.decisionRequest.boundary evidence.decisionRequest.validFrom
    evidence.decisionRequest.expiresAt
  verifier : VerifierGitHubRefAbsenceObservation.Shows evidence.verifier
    evidence.verifierReading.observation evidence.verifierReading.verifier
    evidence.verifierReading.boundary evidence.verifierReading.decision
    evidence.verifierReading.observedAt
  /-- The boundary was created from the runner's observation. -/
  requested : evidence.boundaryRequest.observation.targetDigest = evidence.runner.targetDigest ∧
    evidence.boundaryRequest.observation.runnerId = evidence.runner.runnerId ∧
      evidence.boundaryRequest.observation.runnerBoundaryDigest =
        evidence.runner.runnerBoundaryDigest
  /-- The verifier read after the runner's observation. -/
  followed : evidence.verifierReading.observation.targetDigest = evidence.runner.targetDigest ∧
    evidence.verifierReading.observation.observedAt = evidence.runner.observedAt
  /-- The decision was created from the boundary. -/
  decided : evidence.decisionRequest.boundary.executionId = evidence.boundary.executionId ∧
    evidence.decisionRequest.boundary.executionEpoch = evidence.boundary.executionEpoch ∧
      evidence.decisionRequest.boundary.targetDigest = evidence.boundary.targetDigest
  /-- The verifier read under the boundary. -/
  confined : evidence.verifierReading.boundary.executionId = evidence.boundary.executionId ∧
    evidence.verifierReading.boundary.executionEpoch = evidence.boundary.executionEpoch
  /-- The verifier that read is the one of the boundary. -/
  identified : evidence.verifierReading.verifier.identityDigest =
      evidence.boundaryRequest.verifier.identityDigest ∧
    evidence.verifierReading.verifier.verifierId = evidence.boundaryRequest.verifier.verifierId ∧
      evidence.verifierReading.verifier.providerInstanceId =
        evidence.boundaryRequest.verifier.providerInstanceId

theorem linked (verified : ∃ revisions artifacts, evidence.verify revisions = .ok artifacts)
    (free : ¬evidence.Collides) : evidence.Linked := by
  obtain ⟨revisions, artifacts, verified⟩ := verified
  obtain ⟨runnerBound, boundaryBound, observationBound, -⟩ := bound verified
  obtain ⟨runnerBuilt, runner⟩ := GitHubRefAbsenceObservation.of_create evidence.runnerCreated
  obtain ⟨boundaryBuilt, boundary⟩ :=
    IndependentVerificationBoundaryV2.of_create evidence.boundaryCreated
  obtain ⟨-, decision⟩ := VerifierCredentialDecisionV2.of_create evidence.decisionCreated
  obtain ⟨-, verifier⟩ := VerifierGitHubRefAbsenceObservation.of_create evidence.verifierCreated
  have decisionBoundary := verifier.decisionBoundary
  have decisionIdentity := verifier.decisionIdentity
  rw [evidence.ofDecision] at decisionBoundary decisionIdentity
  have observation {observation : GitHubRefAbsenceObservation}
      (member : observation ∈ [evidence.boundaryRequest.observation,
        evidence.verifierReading.observation])
      (digests : observation.observationDigest = evidence.runner.observationDigest) :=
    (GitHubRefAbsenceObservation.same_or_collision (evidence.observations _ member) runnerBuilt
      digests).resolve_right (not_collision free
        (observation_text (List.mem_cons_of_mem _ member))
        (observation_text (List.mem_cons_self ..)))
  have bounded {boundary : IndependentVerificationBoundaryV2}
      (member : boundary ∈ [evidence.decisionRequest.boundary, evidence.verifierReading.boundary])
      (digests : boundary.boundaryDigest = evidence.boundary.boundaryDigest) :=
    (IndependentVerificationBoundaryV2.same_or_collision (evidence.boundaries _ member)
      boundaryBuilt digests).resolve_right
        (not_collision free (boundary_text (List.mem_cons_of_mem _ member))
          (boundary_text (List.mem_cons_self ..)))
  have thirdBoundary : evidence.verifierReading.boundary.boundaryDigest =
      evidence.boundary.boundaryDigest := verifier.boundaryDigest.symm.trans boundaryBound
  have requested := observation (List.mem_cons_self ..)
    (boundary.observationDigest.symm.trans runnerBound)
  have followed := observation (List.mem_cons_of_mem _ (List.mem_cons_self ..))
    (verifier.observationDigest.symm.trans observationBound)
  have decided := bounded (List.mem_cons_self ..)
    (decision.boundaryDigest.symm.trans (decisionBoundary.trans thirdBoundary))
  have confined := bounded (List.mem_cons_of_mem _ (List.mem_cons_self ..)) thirdBoundary
  have identities : evidence.verifierReading.verifier.identityDigest =
      evidence.boundaryRequest.verifier.identityDigest :=
    decisionIdentity.symm.trans (decision.ofBoundary.trans
      (decided.1.trans boundary.verifierDigest))
  have identified := (VerifierIdentity.same_or_collision (evidence.verifiers _ (by simp))
    (evidence.verifiers _ (by simp)) identities).resolve_right
      (not_collision free (verifier_text (by simp)) (verifier_text (by simp)))
  exact ⟨runner, boundary, decision, verifier, ⟨requested.1, requested.2.1, requested.2.2.1⟩,
    ⟨followed.1, followed.2.2.2⟩, decided.2, ⟨confined.2.1, confined.2.2.1⟩,
    ⟨identities, identified.1, identified.2⟩⟩

/-- All artifacts name the act of the runner's observation. -/
theorem Linked.act (linked : evidence.Linked) (free : ¬evidence.Collides) :
    Agree evidence.runner.executionId evidence.boundary.executionId
        evidence.decision.executionId evidence.verifier.executionId ∧
      Agree evidence.runner.executionEpoch evidence.boundary.executionEpoch
        evidence.decision.executionEpoch evidence.verifier.executionEpoch := by
  have boundaries : evidence.boundaryRequest.boundary.boundaryDigest =
      evidence.runnerReading.boundary.boundaryDigest :=
    linked.boundary.observationBoundary.symm.trans
      (linked.requested.2.2.trans linked.runner.boundaryDigest)
  have same := (RunnerBoundaryV3.same_or_collision
    (evidence.runnerBoundaries _ (by simp)) (evidence.runnerBoundaries _ (by simp))
    linked.boundary.executionEpoch.symm linked.runner.executionEpoch.symm
    boundaries).resolve_right
      (not_collision free (runnerBoundary_text (by simp)) (runnerBoundary_text (by simp)))
  have epochs : evidence.boundary.executionEpoch = evidence.runner.executionEpoch :=
    Json.int.inj (linked.boundary.executionEpoch.trans
      (same.executionEpoch.trans linked.runner.executionEpoch.symm))
  have execution : evidence.boundary.executionId = evidence.runner.executionId :=
    linked.boundary.executionId.trans (same.executionId.trans linked.runner.executionId.symm)
  exact ⟨⟨execution, linked.decision.executionId.trans (linked.decided.1.trans execution),
      linked.verifier.executionId.trans (linked.confined.1.trans execution)⟩,
    ⟨epochs, linked.decision.executionEpoch.trans (linked.decided.2.1.trans epochs),
      linked.verifier.executionEpoch.trans (linked.confined.2.trans epochs)⟩⟩

/-- All artifacts name the target of the runner's observation. -/
theorem Linked.target (linked : evidence.Linked) :
    Agree evidence.runner.targetDigest evidence.boundary.targetDigest
      evidence.decision.targetDigest evidence.verifier.targetDigest := by
  have target : evidence.boundary.targetDigest = evidence.runner.targetDigest :=
    linked.boundary.targetDigest.trans linked.requested.1
  exact ⟨target, linked.decision.targetDigest.trans (linked.decided.2.2.trans target),
    linked.verifier.targetDigest.trans linked.followed.1⟩

theorem Linked.separate (linked : evidence.Linked) (free : ¬evidence.Collides) :
    evidence.verifier.verifierId ≠ evidence.runner.runnerId ∧
      evidence.verifier.verifierIdentityDigest ≠ evidence.runner.runnerIdentityDigest := by
  obtain ⟨boundaryBuilt, -⟩ :=
    IndependentVerificationBoundaryV2.of_create evidence.boundaryCreated
  have checked := boundaryBuilt.checked
  simp only [IndependentVerificationBoundaryV2.contract, bind_eq_ok, raiseIf_eq_ok] at checked
  obtain ⟨_, ids, -⟩ := checked
  constructor
  · intro same
    have verifierId := linked.verifier.verifierId.trans linked.identified.2.1
    have runnerId := linked.requested.2.1.symm.trans linked.boundary.observationRunner
    exact ids (linked.boundary.verifierId.trans (verifierId.symm.trans (same.trans
      (runnerId.trans linked.boundary.runnerId.symm))))
  · intro same
    have digests := linked.verifier.identityDigest.symm.trans
      (same.trans linked.runner.identityDigest)
    have verifierBuilt := evidence.verifiers evidence.verifierReading.verifier (by simp)
    have runnerBuilt := evidence.runnerIdentities evidence.runnerReading.identity (by simp)
    exact not_collision free (verifier_text (by simp)) (runner_text (by simp))
      ⟨VerifierIdentity.digestText_ne _ _, verifierBuilt.digest_eq.symm.trans
        (digests.trans runnerBuilt.digest_eq)⟩

/-- A verification of evidence without collisions is independent exactly when the verifier's
provider
instance is not the one of the runner's reading and its reading is in the requested interval. -/
theorem independent_iff (verified : ∃ revisions artifacts,
    evidence.verify revisions = .ok artifacts) (free : ¬evidence.Collides) :
    evidence.Independent ↔ evidence.InstancesApart ∧ evidence.InInterval := by
  have linked := linked verified free
  obtain ⟨start, stop, startAt, stopAt⟩ := linked.decision.interval
  obtain ⟨runnerTime, verifierTime, runnerAt, verifierAt, order⟩ := linked.verifier.order
  have interval : evidence.InInterval ↔ start ≤ verifierTime ∧ verifierTime < stop := by
    rw [InInterval, startAt, verifierAt, stopAt, Instant.isoformat_le_isoformat,
      Instant.isoformat_lt_isoformat]
  have instances : evidence.InstancesApart ↔
      evidence.verifier.providerInstanceId ≠ evidence.runner.providerInstanceId := by
    rw [InstancesApart, linked.verifier.providerInstance, linked.runner.providerInstance, ne_comm]
  have observed := linked.verifier.observed.trans verifierAt
  rw [interval, instances]
  constructor
  · intro independent
    obtain ⟨first, time, last, begins, reads, ends, after, before⟩ := independent.window
    rw [linked.decision.start, startAt] at begins
    rw [linked.decision.stop, stopAt] at ends
    rw [Instant.isoformat_injective begins, Instant.isoformat_injective (observed.symm.trans reads),
      Instant.isoformat_injective ends]
    exact ⟨independent.apart.2.2, after, before⟩
  · rintro ⟨apart, after, before⟩
    obtain ⟨execution, epoch⟩ := linked.act free
    obtain ⟨ids, identities⟩ := linked.separate free
    exact {
      ofBoundary := ⟨linked.verifier.verifierId.trans
          (linked.identified.2.1.trans linked.boundary.verifierId.symm),
        linked.verifier.identityDigest.trans
          (linked.identified.1.trans linked.boundary.verifierDigest.symm),
        linked.verifier.providerInstance.trans
          (linked.identified.2.2.trans linked.boundary.verifierInstance.symm)⟩
      apart := ⟨ids, identities, apart⟩
      execution := execution
      epoch := epoch
      target := linked.target
      order := ⟨runnerTime, verifierTime, linked.followed.2.symm.trans runnerAt, observed, order⟩
      window := ⟨start, verifierTime, stop, linked.decision.start.trans startAt, observed,
        linked.decision.stop.trans stopAt, after, before⟩ }

end AbsenceEvidence

end VoodooOne
