import VoodooOne.Operation.Proof

/-!
# What operation proofs certify

A proof from either composer shows one execution and one target, verified after the receipt was
recorded, by artifacts that are computed again.  Only the composer for absence compares environments
and asks which mutation the receipt records.
-/

namespace VoodooOne

open Calendar

namespace VerificationArtifacts

def returned (artifacts : VerificationArtifacts) :
    ObservedPostState × VerificationStrength × VerificationResult :=
  (artifacts.observedPostState, artifacts.verificationStrength, artifacts.verification)

theorem requireSame_eq_ok {artifacts : VerificationArtifacts}
    {recomputed : ObservedPostState × VerificationStrength × VerificationResult} {result : Unit} :
    artifacts.requireSame recomputed = .ok result ↔ recomputed = artifacts.returned := by
  obtain ⟨state, strength, verification⟩ := recomputed
  simp only [requireSame, bind_eq_ok, raiseIf_eq_ok, not_not, returned, Prod.mk.injEq]
  constructor
  · rintro ⟨_, rfl, _, rfl, rfl⟩
    exact ⟨rfl, rfl, rfl⟩
  · rintro ⟨rfl, rfl, rfl⟩
    exact ⟨(), rfl, (), rfl, rfl⟩

end VerificationArtifacts

/-- What both composers find of a receipt and a verification. -/
structure ReceiptBound (receipt : ExecutionReceiptV2) (verification : VerificationResult) :
    Prop where
  execution : receipt.executionId = verification.executionId
  target : receipt.targetDigest = verification.targetDigest
  verdict : verification.verdict = verified
  order : ∃ recordedAt checkedAt : Instant, receipt.recordedAt = recordedAt.isoformat ∧
    verification.checkedAt = checkedAt.isoformat ∧ recordedAt ≤ checkedAt

theorem OperationProofV2.bound_of_requireBound {receipt : ExecutionReceiptV2}
    {verification : VerificationResult} {result : Unit}
    (bound : OperationProofV2.requireBound receipt verification = .ok result) :
    ReceiptBound receipt verification := by
  simp only [OperationProofV2.requireBound, bind_eq_ok, raiseIf_eq_ok, not_not, not_lt,
    requireTimestamp_eq_ok, Json.str.injEq] at bound
  obtain ⟨_, execution, _, target, _, -, _, verdict, _, -, _, -, recordedAt, ⟨recorded, -⟩,
    checkedAt, ⟨checked, -⟩, order⟩ := bound
  exact ⟨execution, target, verdict, recordedAt, checkedAt, recorded, checked, order⟩

inductive ProofEvidence (sha256 : String → String) where
  | readback (evidence : ReadbackEvidence sha256)
  | absence (runner : GitHubRefAbsenceObservation) (verifier : VerifierGitHubRefAbsenceObservation)
      (boundary : IndependentVerificationBoundaryV2)

namespace ProofEvidence

variable {sha256 : String → String}

def compose (evidence : ProofEvidence sha256) (receipt : ExecutionReceiptV2)
    (artifacts : VerificationArtifacts) (proofRevision : String) :
    Except Raised OperationProofV2 :=
  match evidence with
  | .readback evidence => OperationProofV2.create receipt evidence artifacts proofRevision
  | .absence runner verifier boundary => OperationProofV2.createFromAbsence sha256 receipt runner
      verifier boundary artifacts proofRevision

def verify (evidence : ProofEvidence sha256) (revisions : ReadbackEvidence.Revisions) :
    Except Raised (ObservedPostState × VerificationStrength × VerificationResult) :=
  match evidence with
  | .readback evidence => evidence.verify revisions
  | .absence runner verifier boundary =>
      verifyGithubRefAbsence sha256 runner verifier boundary revisions

def environment : ProofEvidence sha256 → String
  | .readback evidence => evidence.boundary.environment
  | .absence _ _ boundary => boundary.environment

/-- Runner and verifier read one commit under the reference. -/
def ShowsPresence : ProofEvidence sha256 → Prop
  | .readback evidence => evidence.verifier.commitSha = evidence.runner.commitSha
  | .absence _ _ _ => False

/-- Runner and verifier found no reference. -/
def ShowsAbsence : ProofEvidence sha256 → Prop
  | .readback _ => False
  | .absence runner verifier _ => runner.presence = absent ∧ verifier.presence = absent

/-- A receipt that a readback may be about: of the environment of the boundary, and not of a
deletion. -/
def Suits (evidence : ProofEvidence sha256) (receipt : ExecutionReceiptV2) : Prop :=
  match evidence with
  | .readback evidence => receipt.environment = evidence.boundary.environment ∧
      receipt.providerOperation ≠ deleteRefOperation
  | .absence _ _ _ => True

/-- The receipt and the verification say the same, and no more than the evidence shows. -/
structure Certifies (evidence : ProofEvidence sha256) (receipt : ExecutionReceiptV2)
    (artifacts : VerificationArtifacts) : Prop where
  bound : ReceiptBound receipt artifacts.verification
  environment : receipt.environment = evidence.environment
  /-- A deletion is certified by absence. -/
  deleted : receipt.providerOperation = deleteRefOperation → evidence.ShowsAbsence
  /-- A creation is certified by presence. -/
  created : receipt.providerOperation = createRefOperation → evidence.ShowsPresence
  recomputed : evidence.verify artifacts.revisions = .ok artifacts.returned

theorem bound_of_compose {evidence : ProofEvidence sha256} {receipt : ExecutionReceiptV2}
    {artifacts : VerificationArtifacts} {proofRevision : String} {proof : OperationProofV2}
    (composed : evidence.compose receipt artifacts proofRevision = .ok proof) :
    ReceiptBound receipt artifacts.verification ∧
      evidence.verify artifacts.revisions = .ok artifacts.returned := by
  cases evidence with
  | readback evidence =>
      simp only [compose, OperationProofV2.create, bind_eq_ok,
        VerificationArtifacts.requireSame_eq_ok] at composed
      obtain ⟨_, -, _, recomputed, _, rfl, _, bound, -⟩ := composed
      exact ⟨OperationProofV2.bound_of_requireBound bound, recomputed⟩
  | absence runner verifier boundary =>
      simp only [compose, OperationProofV2.createFromAbsence, bind_eq_ok,
        VerificationArtifacts.requireSame_eq_ok] at composed
      obtain ⟨_, -, _, recomputed, _, rfl, _, -, _, -, _, -, _, bound, -⟩ := composed
      exact ⟨OperationProofV2.bound_of_requireBound bound, recomputed⟩

theorem deletion_of_compose {runner : GitHubRefAbsenceObservation}
    {verifier : VerifierGitHubRefAbsenceObservation} {boundary : IndependentVerificationBoundaryV2}
    {receipt : ExecutionReceiptV2} {artifacts : VerificationArtifacts} {proofRevision : String}
    {proof : OperationProofV2}
    (composed : (absence runner verifier boundary : ProofEvidence sha256).compose receipt artifacts
      proofRevision = .ok proof) : receipt.environment = boundary.environment ∧
        receipt.providerOperation = deleteRefOperation ∧ receipt.rollbackPerformed =
          .bool true := by
  simp only [compose, OperationProofV2.createFromAbsence, bind_eq_ok, raiseIf_eq_ok,
    not_not] at composed
  obtain ⟨_, -, _, -, _, -, _, environment, _, operation, _, rollback, -⟩ := composed
  exact ⟨environment, operation, rollback⟩

theorem absent_of_verify {runner : GitHubRefAbsenceObservation}
    {verifier : VerifierGitHubRefAbsenceObservation} {boundary : IndependentVerificationBoundaryV2}
    {revisions : ReadbackEvidence.Revisions}
    {artifacts : ObservedPostState × VerificationStrength × VerificationResult}
    (verified : verifyGithubRefAbsence sha256 runner verifier boundary revisions = .ok artifacts) :
    runner.presence = absent ∧ verifier.presence = absent := by
  simp only [verifyGithubRefAbsence, bind_eq_ok, raiseIf_eq_ok, not_or, not_not] at verified
  obtain ⟨_, -, _, -, _, -, _, -, _, presences, -⟩ := verified
  exact presences

/-- A composed proof certifies what its evidence shows exactly when the evidence suits the receipt.
-/
theorem certifies_iff {sha256 : Sha256} {evidence : ProofEvidence sha256.hexdigest}
    {receipt : ExecutionReceiptV2} {artifacts : VerificationArtifacts} {proofRevision : String}
    {proof : OperationProofV2}
    (composed : evidence.compose receipt artifacts proofRevision = .ok proof) :
    evidence.Certifies receipt artifacts ↔ evidence.Suits receipt := by
  obtain ⟨bound, recomputed⟩ := bound_of_compose composed
  cases evidence with
  | readback evidence =>
      constructor
      · intro certifies
        exact ⟨certifies.environment, fun deletion => certifies.deleted deletion⟩
      · rintro ⟨environment, operation⟩
        obtain ⟨-, -, same⟩ := ReadbackEvidence.verify_eq_ok.mp recomputed
        have presence : evidence.Matches := by
          by_contra differ
          have verdict := bound.verdict
          have result : artifacts.verification = evidence.result artifacts.revisions :=
            congrArg (fun artifacts => artifacts.2.2) same
          rw [result, ReadbackEvidence.result] at verdict
          simp [VerificationResult.contract, ReadbackEvidence.resultDraft, differ, notVerified,
            verified] at verdict
        exact ⟨bound, environment, fun deletion => operation deletion, fun _ => presence,
          recomputed⟩
  | absence runner verifier boundary =>
      obtain ⟨environment, operation, -⟩ := deletion_of_compose composed
      refine iff_of_true ⟨bound, environment, fun _ => absent_of_verify recomputed,
        fun creation => ?_, recomputed⟩ trivial
      exact absurd (operation.symm.trans creation) (by decide)

end ProofEvidence

/-- Proofs of either composer certify what their evidence shows exactly when a readback is used for
a
receipt of its environment that records no deletion, and no receipt that suits a readback is proved
by absence as well. -/
theorem operationProofs_certify_iff (sha256 : Sha256) :
    (∀ (evidence : ProofEvidence sha256.hexdigest) receipt artifacts proofRevision proof,
      evidence.compose receipt artifacts proofRevision = .ok proof →
        (evidence.Certifies receipt artifacts ↔ evidence.Suits receipt)) ∧
    ∀ (readback : ReadbackEvidence sha256.hexdigest) runner verifier boundary receipt
      artifacts proofRevision proof,
      (ProofEvidence.absence runner verifier boundary :
          ProofEvidence sha256.hexdigest).compose receipt artifacts proofRevision = .ok proof →
        ¬(ProofEvidence.readback readback).Suits receipt := by
  refine ⟨fun evidence receipt artifacts proofRevision proof composed =>
    ProofEvidence.certifies_iff composed, ?_⟩
  intro readback runner verifier boundary receipt artifacts proofRevision proof composed suits
  exact suits.2 (ProofEvidence.deletion_of_compose composed).2.1

namespace PresentDeletion

open UnlabelledReadback

def revisions : ReadbackEvidence.Revisions := ⟨"r1", "r1", "r1"⟩

def artifacts : VerificationArtifacts where
  observedPostState := evidence.state revisions
  verificationStrength := evidence.strength revisions
  verification := evidence.result revisions

def receipt : ExecutionReceiptV2 where
  executionId := "exec_1"
  requestId := "req_1"
  environment := "staging"
  capability := "github.delete_ref/v1"
  targetDigest := digest
  authorizationSnapshotDigest := digest
  executionGrantDigest := digest
  executionCapsuleDigest := digest
  grantConsumptionWitnessDigest := digest
  dispatchEnvelopeDigest := digest
  dispatchAdmissionDigest := digest
  executionLeaseDigest := digest
  runnerIdentityDigest := digest
  runnerBoundaryDigest := digest
  credentialAccessDecisionDigest := digest
  runtimeActivationDigest := digest
  writeEffectPreflightDigest := digest
  providerOperation := deleteRefOperation
  providerRequestDigest := digest
  providerResponseDigest := digest
  providerMutationPerformed := .bool true
  providerMutationCount := 1
  automaticRetryPerformed := .bool false
  rollbackPerformed := .bool true
  durableCompletionOutcome := completed
  durableCompletionDigest := digest
  executionStatus := executionSucceeded
  effectStatus := effectRecorded
  verificationStatus := notEvaluated
  recordingClockWitnessDigest := digest
  recordedAt := sampleTime.isoformat
  receiptRevision := "r1"
  receiptDigest := digest

theorem recomputed : evidence.verify artifacts.revisions = .ok artifacts.returned := by
  refine ReadbackEvidence.verify_of_bound evidence_bound ?_
  simp only [ReadbackEvidence.Revisions.textFields, List.forall_mem_cons]
  exact ⟨by decide, by decide, by decide, List.forall_mem_nil _⟩

theorem receipt_bound : OperationProofV2.requireBound receipt artifacts.verification = .ok () := by
  have read (field : String) : requireTimestamp (.str sampleTime.isoformat) field =
    .ok sampleTime :=
    requireTimestamp_eq_ok.mpr ⟨rfl, validText_sampleTime⟩
  simp only [OperationProofV2.requireBound, bind_eq_ok, raiseIf_eq_ok, not_not]
  exact ⟨(), rfl, (), rfl, (), rfl, (), rfl, (), rfl, (), rfl, sampleTime, read _, sampleTime,
    read _, lt_irrefl _⟩

def proofDraft : OperationProofV2 where
  executionId := "exec_1"
  executionEpoch := 1
  requestId := "req_1"
  environment := "staging"
  capability := "github.delete_ref/v1"
  targetDigest := digest
  authorizationSnapshotDigest := digest
  executionGrantDigest := digest
  executionReceiptDigest := digest
  providerOperation := deleteRefOperation
  providerResponseDigest := digest
  providerMutationCount := .int 1
  automaticRetryPerformed := .bool false
  rollbackPerformed := .bool true
  runnerObservationDigest := digest
  verifierObservationDigest := digest
  observedPostStateDigest := digest
  verificationBoundaryDigest := digest
  verifierId := repeatedDigit '2'
  verifierIdentityDigest := digest
  verificationStrengthDigest := digest
  verificationStrengthClass := independentProviderReadback
  verificationResultDigest := digest
  receiptRecordedAt := sampleTime.isoformat
  verificationCheckedAt := sampleTime.isoformat
  finalVerdict := verified
  proofRevision := "r1"
  proofDigest := digest

theorem proof_created : OperationProofV2.contract.create sampleDigest.hexdigest proofDraft =
    .ok proofDraft := by
  have zero : ValidText digest ∧ IsDigest digest := digest_passes (by decide)
  have time : ValidText sampleTime.isoformat ∧
      ∃ instant : Instant, sampleTime.isoformat = instant.isoformat :=
    ⟨validText_sampleTime, sampleTime, rfl⟩
  have read (field : String) : requireTimestamp (.str sampleTime.isoformat) field =
    .ok sampleTime :=
    requireTimestamp_eq_ok.mpr ⟨rfl, validText_sampleTime⟩
  refine Contract.create_of_holds OperationProofV2.lawful proofDraft digest
    (digestOf_sampleDigest _).symm (fun self reads => ?_) ?_
  · simp only [OperationProofV2.contract, Contract.fieldsWith, Contract.claimFields,
      OperationProofV2.claims, proofDraft, List.cons_append, List.nil_append,
      List.forall_mem_cons] at reads
    simp only [OperationProofV2.contract, requireTexts, requireDigests, requireTruth,
      List.map_cons, List.map_nil, List.cons_append, List.nil_append, List.forall_mem_cons,
      AttributeCheck.Holds, Attributes.text, Attributes.int, Json.text?, reads, Option.getD_some,
      true_and, raiseIf_eq_ok, not_not]
    exact ⟨by decide, by decide, by decide, by decide, by decide, by decide, by decide, by decide,
      zero, zero, zero, zero, zero, zero, zero, zero, zero, digest_passes (by decide), zero, zero,
      zero, zero, Int.le_refl 1, rfl, rfl, time, time, List.forall_mem_nil _⟩
  · simp only [OperationProofV2.contract, proofDraft, bind_eq_ok, raiseIf_eq_ok]
    exact ⟨sampleTime, read _, sampleTime, read _, (), lt_irrefl _, (), fun other => other rfl,
      fun other => other rfl⟩

/-- A readback that found the reference proves the receipt that says that it was deleted. -/
theorem proved : ∃ proof,
    (ProofEvidence.readback evidence).compose receipt artifacts "r1" = .ok proof ∧
      ¬(ProofEvidence.readback evidence).Certifies receipt artifacts := by
  refine ⟨proofDraft, ?_, fun certifies => certifies.deleted rfl⟩
  simp only [ProofEvidence.compose, OperationProofV2.create, bind_eq_ok,
    VerificationArtifacts.requireSame_eq_ok]
  exact ⟨"r1", requireText_eq_ok.mpr ⟨rfl, by decide⟩, _, recomputed, (), rfl, (), receipt_bound,
    proof_created⟩

end PresentDeletion

end VoodooOne
