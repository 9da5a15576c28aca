import VoodooOne.Verification.AbsenceReadback

/-!
# Operation proofs

A proof binds the receipt of a bounded write to an independent verification.  One composer takes the
readback of a reference, the other takes its absence; both compute the verification again.
-/

namespace VoodooOne

def executionSucceeded : String := "SUCCEEDED"

def effectRecorded : String := "EFFECT_RECORDED"

def notEvaluated : String := "NOT_EVALUATED"

/-- The outcome of a durable completion. -/
def completed : String := "COMPLETED"

/-- The check `type(...) is not bool`. -/
def requireBool (message : String) : Json → Except Raised Unit
  | .bool _ => .ok ()
  | _ => .error (valueError message)

structure ExecutionReceiptV2 where
  (executionId requestId environment capability targetDigest : String)
  (authorizationSnapshotDigest executionGrantDigest executionCapsuleDigest : String)
  (grantConsumptionWitnessDigest dispatchEnvelopeDigest dispatchAdmissionDigest : String)
  (executionLeaseDigest runnerIdentityDigest runnerBoundaryDigest : String)
  (credentialAccessDecisionDigest runtimeActivationDigest writeEffectPreflightDigest : String)
  (providerOperation providerRequestDigest providerResponseDigest : String)
  providerMutationPerformed : Json
  providerMutationCount : Int
  (automaticRetryPerformed rollbackPerformed : Json)
  (durableCompletionOutcome durableCompletionDigest executionStatus effectStatus : String)
  (verificationStatus recordingClockWitnessDigest recordedAt receiptRevision : String)
  receiptDigest : String
deriving DecidableEq

namespace ExecutionReceiptV2

/-- `_claims_without_digest`, apart from version and type. -/
def claims (receipt : ExecutionReceiptV2) : List (String × Json) :=
  [("execution_id", .str receipt.executionId),
    ("request_id", .str receipt.requestId),
    ("environment", .str receipt.environment),
    ("capability", .str receipt.capability),
    ("target_digest", .str receipt.targetDigest),
    ("authorization_snapshot_digest", .str receipt.authorizationSnapshotDigest),
    ("execution_grant_digest", .str receipt.executionGrantDigest),
    ("execution_capsule_digest", .str receipt.executionCapsuleDigest),
    ("grant_consumption_witness_digest", .str receipt.grantConsumptionWitnessDigest),
    ("dispatch_envelope_digest", .str receipt.dispatchEnvelopeDigest),
    ("dispatch_admission_digest", .str receipt.dispatchAdmissionDigest),
    ("execution_lease_digest", .str receipt.executionLeaseDigest),
    ("runner_identity_digest", .str receipt.runnerIdentityDigest),
    ("runner_boundary_digest", .str receipt.runnerBoundaryDigest),
    ("credential_access_decision_digest", .str receipt.credentialAccessDecisionDigest),
    ("runtime_activation_digest", .str receipt.runtimeActivationDigest),
    ("write_effect_preflight_digest", .str receipt.writeEffectPreflightDigest),
    ("provider_operation", .str receipt.providerOperation),
    ("provider_request_digest", .str receipt.providerRequestDigest),
    ("provider_response_digest", .str receipt.providerResponseDigest),
    ("provider_mutation_performed", receipt.providerMutationPerformed),
    ("provider_mutation_count", .int receipt.providerMutationCount),
    ("automatic_retry_performed", receipt.automaticRetryPerformed),
    ("rollback_performed", receipt.rollbackPerformed),
    ("durable_completion_outcome", .str receipt.durableCompletionOutcome),
    ("durable_completion_digest", .str receipt.durableCompletionDigest),
    ("execution_status", .str receipt.executionStatus),
    ("effect_status", .str receipt.effectStatus),
    ("verification_status", .str receipt.verificationStatus),
    ("recording_clock_witness_digest", .str receipt.recordingClockWitnessDigest),
    ("recorded_at", .str receipt.recordedAt),
    ("receipt_revision", .str receipt.receiptRevision)]

def ofAttributes (self : Attributes) : ExecutionReceiptV2 where
  executionId := self.text "execution_id"
  requestId := self.text "request_id"
  environment := self.text "environment"
  capability := self.text "capability"
  targetDigest := self.text "target_digest"
  authorizationSnapshotDigest := self.text "authorization_snapshot_digest"
  executionGrantDigest := self.text "execution_grant_digest"
  executionCapsuleDigest := self.text "execution_capsule_digest"
  grantConsumptionWitnessDigest := self.text "grant_consumption_witness_digest"
  dispatchEnvelopeDigest := self.text "dispatch_envelope_digest"
  dispatchAdmissionDigest := self.text "dispatch_admission_digest"
  executionLeaseDigest := self.text "execution_lease_digest"
  runnerIdentityDigest := self.text "runner_identity_digest"
  runnerBoundaryDigest := self.text "runner_boundary_digest"
  credentialAccessDecisionDigest := self.text "credential_access_decision_digest"
  runtimeActivationDigest := self.text "runtime_activation_digest"
  writeEffectPreflightDigest := self.text "write_effect_preflight_digest"
  providerOperation := self.text "provider_operation"
  providerRequestDigest := self.text "provider_request_digest"
  providerResponseDigest := self.text "provider_response_digest"
  providerMutationPerformed := self "provider_mutation_performed"
  providerMutationCount := self.int "provider_mutation_count"
  automaticRetryPerformed := self "automatic_retry_performed"
  rollbackPerformed := self "rollback_performed"
  durableCompletionOutcome := self.text "durable_completion_outcome"
  durableCompletionDigest := self.text "durable_completion_digest"
  executionStatus := self.text "execution_status"
  effectStatus := self.text "effect_status"
  verificationStatus := self.text "verification_status"
  recordingClockWitnessDigest := self.text "recording_clock_witness_digest"
  recordedAt := self.text "recorded_at"
  receiptRevision := self.text "receipt_revision"
  receiptDigest := self.text "receipt_digest"

def contract : Contract ExecutionReceiptV2 where
  schemaVersion := 2
  contractType := "execution-receipt/v2"
  typeField := "receipt_type"
  digestField := "receipt_digest"
  mismatch := "receipt_digest does not match execution-receipt/v2"
  attributes :=
    ["execution_id", "request_id", "environment", "capability", "target_digest",
      "authorization_snapshot_digest", "execution_grant_digest", "execution_capsule_digest",
      "grant_consumption_witness_digest", "dispatch_envelope_digest",
      "dispatch_admission_digest", "execution_lease_digest", "runner_identity_digest",
      "runner_boundary_digest", "credential_access_decision_digest",
      "runtime_activation_digest", "write_effect_preflight_digest", "provider_operation",
      "provider_request_digest", "provider_response_digest", "provider_mutation_performed",
      "provider_mutation_count", "automatic_retry_performed", "rollback_performed",
      "durable_completion_outcome", "durable_completion_digest", "execution_status",
      "effect_status", "verification_status", "recording_clock_witness_digest", "recorded_at",
      "receipt_revision"].map
      fun field => (field, if field = "provider_mutation_count" then .integer else
        if field ∈ ["provider_mutation_performed", "automatic_retry_performed",
          "rollback_performed"] then .any else .text)
  checks :=
    requireTexts ["execution_id", "request_id", "environment", "capability", "provider_operation",
      "durable_completion_outcome", "execution_status", "effect_status", "verification_status",
      "receipt_revision"] ++
    requireDigests ["target_digest", "authorization_snapshot_digest", "execution_grant_digest",
      "execution_capsule_digest", "grant_consumption_witness_digest", "dispatch_envelope_digest",
      "dispatch_admission_digest", "execution_lease_digest", "runner_identity_digest",
      "runner_boundary_digest", "credential_access_decision_digest", "runtime_activation_digest",
      "write_effect_preflight_digest", "provider_request_digest", "provider_response_digest",
      "durable_completion_digest", "recording_clock_witness_digest", "receipt_digest"] ++
    [.timestamp "recorded_at"] ++
    (["provider_mutation_performed", "automatic_retry_performed", "rollback_performed"].map
      fun field => .satisfies field (requireBool (field ++ " must be bool"))) ++
    [.integer "provider_mutation_count" 0
        "provider_mutation_count must be a non-negative integer",
      .equals "execution_status" executionSucceeded
        "execution-receipt/v2 R1 records only successful bounded effects",
      .equals "effect_status" effectRecorded
        "successful execution-receipt/v2 must record an effect",
      .equals "verification_status" notEvaluated
        "ExecutionReceipt must not manufacture a verification verdict"]
  ofAttributes := ofAttributes
  claims := claims
  digest := receiptDigest
  withDigest receipt digest := { receipt with receiptDigest := digest }
  check _ receipt := do
    raiseIf (receipt.providerMutationPerformed ≠ .bool true ∨ receipt.providerMutationCount ≠ 1)
      (valueError "successful bounded-write receipt must record exactly one provider mutation")
    raiseIf (receipt.automaticRetryPerformed ≠ .bool false)
      (valueError "R1 bounded-write receipt forbids automatic mutation retry")
    raiseIf (receipt.durableCompletionOutcome ≠ completed)
      (valueError "successful receipt requires durable completion")
    raiseIf (receipt.durableCompletionDigest ≠ receipt.providerResponseDigest)
      (valueError "durable completion must bind the exact provider response digest")

theorem lawful : contract.Lawful where
  ofAttributes_eq self receipt digest same := by
    simp only [contract, claims, List.cons_append, List.nil_append, List.forall_mem_cons] at same
    simp [contract, ofAttributes, Attributes.text, Attributes.int, Json.text?, same]

end ExecutionReceiptV2

open Calendar

/-- `OperationProofV2`.  A receipt bound to an independent verification. -/
structure OperationProofV2 where
  executionId : String
  executionEpoch : Int
  (requestId environment capability targetDigest authorizationSnapshotDigest : String)
  (executionGrantDigest executionReceiptDigest providerOperation : String)
  providerResponseDigest : String
  (providerMutationCount automaticRetryPerformed rollbackPerformed : Json)
  (runnerObservationDigest verifierObservationDigest observedPostStateDigest : String)
  (verificationBoundaryDigest verifierId verifierIdentityDigest : String)
  (verificationStrengthDigest verificationStrengthClass verificationResultDigest : String)
  (receiptRecordedAt verificationCheckedAt finalVerdict proofRevision proofDigest : String)
deriving DecidableEq

namespace OperationProofV2

/-- `_claims_without_digest`, apart from version and type. -/
def claims (proof : OperationProofV2) : List (String × Json) :=
  [("execution_id", .str proof.executionId),
    ("execution_epoch", .int proof.executionEpoch),
    ("request_id", .str proof.requestId),
    ("environment", .str proof.environment),
    ("capability", .str proof.capability),
    ("target_digest", .str proof.targetDigest),
    ("authorization_snapshot_digest", .str proof.authorizationSnapshotDigest),
    ("execution_grant_digest", .str proof.executionGrantDigest),
    ("execution_receipt_digest", .str proof.executionReceiptDigest),
    ("provider_operation", .str proof.providerOperation),
    ("provider_response_digest", .str proof.providerResponseDigest),
    ("provider_mutation_count", proof.providerMutationCount),
    ("automatic_retry_performed", proof.automaticRetryPerformed),
    ("rollback_performed", proof.rollbackPerformed),
    ("runner_observation_digest", .str proof.runnerObservationDigest),
    ("verifier_observation_digest", .str proof.verifierObservationDigest),
    ("observed_post_state_digest", .str proof.observedPostStateDigest),
    ("verification_boundary_digest", .str proof.verificationBoundaryDigest),
    ("verifier_id", .str proof.verifierId),
    ("verifier_identity_digest", .str proof.verifierIdentityDigest),
    ("verification_strength_digest", .str proof.verificationStrengthDigest),
    ("verification_strength_class", .str proof.verificationStrengthClass),
    ("verification_result_digest", .str proof.verificationResultDigest),
    ("receipt_recorded_at", .str proof.receiptRecordedAt),
    ("verification_checked_at", .str proof.verificationCheckedAt),
    ("final_verdict", .str proof.finalVerdict),
    ("proof_revision", .str proof.proofRevision)]

def ofAttributes (self : Attributes) : OperationProofV2 where
  executionId := self.text "execution_id"
  executionEpoch := self.int "execution_epoch"
  requestId := self.text "request_id"
  environment := self.text "environment"
  capability := self.text "capability"
  targetDigest := self.text "target_digest"
  authorizationSnapshotDigest := self.text "authorization_snapshot_digest"
  executionGrantDigest := self.text "execution_grant_digest"
  executionReceiptDigest := self.text "execution_receipt_digest"
  providerOperation := self.text "provider_operation"
  providerResponseDigest := self.text "provider_response_digest"
  providerMutationCount := self "provider_mutation_count"
  automaticRetryPerformed := self "automatic_retry_performed"
  rollbackPerformed := self "rollback_performed"
  runnerObservationDigest := self.text "runner_observation_digest"
  verifierObservationDigest := self.text "verifier_observation_digest"
  observedPostStateDigest := self.text "observed_post_state_digest"
  verificationBoundaryDigest := self.text "verification_boundary_digest"
  verifierId := self.text "verifier_id"
  verifierIdentityDigest := self.text "verifier_identity_digest"
  verificationStrengthDigest := self.text "verification_strength_digest"
  verificationStrengthClass := self.text "verification_strength_class"
  verificationResultDigest := self.text "verification_result_digest"
  receiptRecordedAt := self.text "receipt_recorded_at"
  verificationCheckedAt := self.text "verification_checked_at"
  finalVerdict := self.text "final_verdict"
  proofRevision := self.text "proof_revision"
  proofDigest := self.text "proof_digest"

def contract : Contract OperationProofV2 where
  schemaVersion := 2
  contractType := "operation-proof/v2"
  typeField := "proof_type"
  digestField := "proof_digest"
  mismatch := "proof_digest does not match OperationProof/v2"
  attributes :=
    ["execution_id", "execution_epoch", "request_id", "environment", "capability",
      "target_digest", "authorization_snapshot_digest", "execution_grant_digest",
      "execution_receipt_digest", "provider_operation", "provider_response_digest",
      "provider_mutation_count", "automatic_retry_performed", "rollback_performed",
      "runner_observation_digest", "verifier_observation_digest",
      "observed_post_state_digest", "verification_boundary_digest", "verifier_id",
      "verifier_identity_digest", "verification_strength_digest",
      "verification_strength_class", "verification_result_digest", "receipt_recorded_at",
      "verification_checked_at", "final_verdict", "proof_revision"].map
      fun field => (field, if field = "execution_epoch" then .integer else
        if field ∈ ["provider_mutation_count", "automatic_retry_performed",
          "rollback_performed"] then .any else .text)
  checks :=
    requireTexts ["execution_id", "request_id", "environment", "capability", "provider_operation",
      "verification_strength_class", "final_verdict", "proof_revision"] ++
    requireDigests ["target_digest", "authorization_snapshot_digest", "execution_grant_digest",
      "execution_receipt_digest", "provider_response_digest", "runner_observation_digest",
      "verifier_observation_digest", "observed_post_state_digest", "verification_boundary_digest",
      "verifier_id", "verifier_identity_digest", "verification_strength_digest",
      "verification_result_digest", "proof_digest"] ++
    [.integer "execution_epoch" 1 "execution_epoch must be >= 1",
      .satisfies "provider_mutation_count" fun value => raiseIf (value ≠ .int 1)
        (valueError "OperationProof/v2 requires exactly one bounded provider mutation"),
      .satisfies "automatic_retry_performed"
        (requireBool "automatic_retry_performed must be bool"),
      .satisfies "automatic_retry_performed"
        (requireTruth false "OperationProof/v2 forbids automatic mutation retry"),
      .satisfies "rollback_performed" (requireBool "rollback_performed must be bool"),
      .timestamp "receipt_recorded_at", .timestamp "verification_checked_at"]
  ofAttributes := ofAttributes
  claims := claims
  digest := proofDigest
  withDigest proof digest := { proof with proofDigest := digest }
  check _ proof := do
    let recordedAt ← requireTimestamp (.str proof.receiptRecordedAt) "receipt_recorded_at"
    let checkedAt ← requireTimestamp (.str proof.verificationCheckedAt) "verification_checked_at"
    raiseIf (checkedAt < recordedAt)
      (valueError "verification must not precede the recorded execution receipt")
    raiseIf (proof.verificationStrengthClass ≠ independentProviderReadback)
      (valueError "OperationProof/v2 requires independent provider readback")
    raiseIf (proof.finalVerdict ≠ verified)
      (valueError "OperationProof/v2 may only represent VERIFIED operations")

theorem lawful : contract.Lawful where
  ofAttributes_eq self proof digest same := by
    simp only [contract, claims, List.cons_append, List.nil_append, List.forall_mem_cons] at same
    simp [contract, ofAttributes, Attributes.text, Attributes.int, Json.text?, same]

end OperationProofV2

structure VerificationArtifacts where
  observedPostState : ObservedPostState
  verificationStrength : VerificationStrength
  verification : VerificationResult
deriving DecidableEq

namespace VerificationArtifacts

/-- The labels under which the artifacts are computed again. -/
def revisions (artifacts : VerificationArtifacts) : ReadbackEvidence.Revisions where
  observedPostStateRevision := artifacts.observedPostState.stateRevision
  strengthRevision := artifacts.verificationStrength.strengthRevision
  resultRevision := artifacts.verification.resultRevision

def requireSame (artifacts : VerificationArtifacts)
    (recomputed : ObservedPostState × VerificationStrength × VerificationResult) :
    Except Raised Unit := do
  raiseIf (artifacts.observedPostState ≠ recomputed.1)
    ⟨.operationProofV2Denied, "OPERATION_PROOF_V2_OBSERVED_POST_STATE_MISMATCH"⟩
  raiseIf (artifacts.verificationStrength ≠ recomputed.2.1)
    ⟨.operationProofV2Denied, "OPERATION_PROOF_V2_VERIFICATION_STRENGTH_MISMATCH"⟩
  raiseIf (artifacts.verification ≠ recomputed.2.2)
    ⟨.operationProofV2Denied, "OPERATION_PROOF_V2_VERIFICATION_RESULT_MISMATCH"⟩

end VerificationArtifacts

namespace OperationProofV2

/-- The comparisons of receipt and verification that both composers make. -/
def requireBound (receipt : ExecutionReceiptV2) (verification : VerificationResult) :
    Except Raised Unit := do
  raiseIf (receipt.executionId ≠ verification.executionId)
    ⟨.operationProofV2Denied, "OPERATION_PROOF_V2_EXECUTION_MISMATCH"⟩
  raiseIf (receipt.targetDigest ≠ verification.targetDigest)
    ⟨.operationProofV2Denied, "OPERATION_PROOF_V2_TARGET_MISMATCH"⟩
  raiseIf (receipt.verificationStatus ≠ notEvaluated)
    ⟨.operationProofV2Denied, "OPERATION_PROOF_V2_RECEIPT_VERIFICATION_SEPARATION_REQUIRED"⟩
  raiseIf (verification.verdict ≠ verified)
    ⟨.operationProofV2Denied, "OPERATION_PROOF_V2_INDEPENDENT_VERIFICATION_REQUIRED"⟩
  raiseIf (verification.reason ≠ observedStateMatch)
    ⟨.operationProofV2Denied, "OPERATION_PROOF_V2_VERIFICATION_REASON_INVALID"⟩
  raiseIf (verification.verificationStrengthClass ≠ independentProviderReadback)
    ⟨.operationProofV2Denied, "OPERATION_PROOF_V2_VERIFICATION_STRENGTH_INVALID"⟩
  let recordedAt ← requireTimestamp (.str receipt.recordedAt) "receipt.recorded_at"
  let checkedAt ← requireTimestamp (.str verification.checkedAt) "verification.checked_at"
  raiseIf (checkedAt < recordedAt)
    ⟨.operationProofV2Denied, "OPERATION_PROOF_V2_VERIFICATION_PRECEDES_RECEIPT"⟩

/-- The claims of a proof, apart from version and type. -/
def composed (receipt : ExecutionReceiptV2) (artifacts : VerificationArtifacts)
    (boundaryDigest proofRevision : String) : List (String × Json) :=
  let { observedPostState, verificationStrength, verification } := artifacts
  [("execution_id", .str receipt.executionId),
    ("execution_epoch", .int verification.executionEpoch),
    ("request_id", .str receipt.requestId),
    ("environment", .str receipt.environment),
    ("capability", .str receipt.capability),
    ("target_digest", .str receipt.targetDigest),
    ("authorization_snapshot_digest", .str receipt.authorizationSnapshotDigest),
    ("execution_grant_digest", .str receipt.executionGrantDigest),
    ("execution_receipt_digest", .str receipt.receiptDigest),
    ("provider_operation", .str receipt.providerOperation),
    ("provider_response_digest", .str receipt.providerResponseDigest),
    ("provider_mutation_count", .int receipt.providerMutationCount),
    ("automatic_retry_performed", receipt.automaticRetryPerformed),
    ("rollback_performed", receipt.rollbackPerformed),
    ("runner_observation_digest", .str verification.runnerObservationDigest),
    ("verifier_observation_digest", .str verification.verifierObservationDigest),
    ("observed_post_state_digest", .str observedPostState.stateDigest),
    ("verification_boundary_digest", .str boundaryDigest),
    ("verifier_id", .str verification.verifierId),
    ("verifier_identity_digest", .str verification.verifierIdentityDigest),
    ("verification_strength_digest", .str verificationStrength.strengthDigest),
    ("verification_strength_class", .str verification.verificationStrengthClass),
    ("verification_result_digest", .str verification.resultDigest),
    ("receipt_recorded_at", .str receipt.recordedAt),
    ("verification_checked_at", .str verification.checkedAt),
    ("final_verdict", .str verified),
    ("proof_revision", .str proofRevision)]

/-- `create`, from a readback. -/
def create {sha256 : String → String} (receipt : ExecutionReceiptV2)
    (evidence : ReadbackEvidence sha256) (artifacts : VerificationArtifacts)
    (proofRevision : String) : Except Raised OperationProofV2 := do
  let _ ← requireText (.str proofRevision) "proof_revision"
  let recomputed ← evidence.verify artifacts.revisions
  artifacts.requireSame recomputed
  requireBound receipt artifacts.verification
  contract.createFrom sha256
    (composed receipt artifacts evidence.boundary.boundaryDigest proofRevision)

/-- `create_operation_proof_v2_from_absence`. -/
def createFromAbsence (sha256 : String → String) (receipt : ExecutionReceiptV2)
    (runner : GitHubRefAbsenceObservation) (verifier : VerifierGitHubRefAbsenceObservation)
    (boundary : IndependentVerificationBoundaryV2) (artifacts : VerificationArtifacts)
    (proofRevision : String) : Except Raised OperationProofV2 := do
  let _ ← requireText (.str proofRevision) "proof_revision"
  let recomputed ← verifyGithubRefAbsence sha256 runner verifier boundary artifacts.revisions
  artifacts.requireSame recomputed
  raiseIf (receipt.environment ≠ boundary.environment)
    ⟨.operationProofV2Denied, "OPERATION_PROOF_V2_ENVIRONMENT_MISMATCH"⟩
  raiseIf (receipt.providerOperation ≠ deleteRefOperation)
    ⟨.operationProofV2Denied, "OPERATION_PROOF_V2_ABSENCE_PROVIDER_OPERATION_INVALID"⟩
  raiseIf (receipt.rollbackPerformed ≠ .bool true)
    ⟨.operationProofV2Denied, "OPERATION_PROOF_V2_ABSENCE_ROLLBACK_REQUIRED"⟩
  requireBound receipt artifacts.verification
  let claims := ("schema_version", .int contract.schemaVersion) ::
    (contract.typeField, .str contract.contractType) ::
      composed receipt artifacts boundary.boundaryDigest proofRevision
  contract.fromDict sha256 (.object (claims ++
    [(contract.digestField, .str (digestOf sha256 (.object claims)))]))

end OperationProofV2

end VoodooOne
