import VoodooOne.Foundation.Contract
import VoodooOne.Schema.Rows

/-!
# Verification results

A verification result says whether the state that a verifier read back is the one that the runner
reported, for one execution epoch.
-/

namespace VoodooOne

structure VerificationResult where
  executionId : String
  executionEpoch : Int
  (targetDigest runnerObservationDigest verifierObservationDigest : String)
  (observedPostStateDigest verificationBoundaryDigest : String)
  (verifierId verifierIdentityDigest : String)
  (verificationStrengthDigest verificationStrengthClass : String)
  (verdict reason checkedAt resultRevision resultDigest : String)
deriving DecidableEq, Repr

def independentProviderReadback : String := "INDEPENDENT_PROVIDER_READBACK"

def verified : String := "VERIFIED"

def notVerified : String := "NOT_VERIFIED"

def observedStateMatch : String := "OBSERVED_STATE_MATCH"

def observedStateMismatch : String := "OBSERVED_STATE_MISMATCH"

namespace VerificationResult

/-- `_claims_without_digest`, apart from version and type. -/
def claims (result : VerificationResult) : List (String × Json) :=
  [("execution_id", .str result.executionId),
    ("execution_epoch", .int result.executionEpoch),
    ("target_digest", .str result.targetDigest),
    ("runner_observation_digest", .str result.runnerObservationDigest),
    ("verifier_observation_digest", .str result.verifierObservationDigest),
    ("observed_post_state_digest", .str result.observedPostStateDigest),
    ("verification_boundary_digest", .str result.verificationBoundaryDigest),
    ("verifier_id", .str result.verifierId),
    ("verifier_identity_digest", .str result.verifierIdentityDigest),
    ("verification_strength_digest", .str result.verificationStrengthDigest),
    ("verification_strength_class", .str result.verificationStrengthClass),
    ("verdict", .str result.verdict),
    ("reason", .str result.reason),
    ("checked_at", .str result.checkedAt),
    ("result_revision", .str result.resultRevision)]

def ofAttributes (self : Attributes) : VerificationResult where
  executionId := self.text "execution_id"
  executionEpoch := self.int "execution_epoch"
  targetDigest := self.text "target_digest"
  runnerObservationDigest := self.text "runner_observation_digest"
  verifierObservationDigest := self.text "verifier_observation_digest"
  observedPostStateDigest := self.text "observed_post_state_digest"
  verificationBoundaryDigest := self.text "verification_boundary_digest"
  verifierId := self.text "verifier_id"
  verifierIdentityDigest := self.text "verifier_identity_digest"
  verificationStrengthDigest := self.text "verification_strength_digest"
  verificationStrengthClass := self.text "verification_strength_class"
  verdict := self.text "verdict"
  reason := self.text "reason"
  checkedAt := self.text "checked_at"
  resultRevision := self.text "result_revision"
  resultDigest := self.text "result_digest"

def contract : Contract VerificationResult where
  contractType := "verification-result/v1"
  typeField := "result_type"
  digestField := "result_digest"
  mismatch := "result_digest does not match VerificationResult"
  attributes :=
    ["execution_id", "execution_epoch", "target_digest", "runner_observation_digest",
      "verifier_observation_digest", "observed_post_state_digest",
      "verification_boundary_digest", "verifier_id", "verifier_identity_digest",
      "verification_strength_digest", "verification_strength_class", "verdict", "reason",
      "checked_at", "result_revision"].map
      fun field => (field, if field = "execution_epoch" then .integer else .text)
  checks :=
    requireTexts ["execution_id", "verification_strength_class", "verdict", "reason",
      "result_revision"] ++
    requireDigests ["target_digest", "runner_observation_digest", "verifier_observation_digest",
      "observed_post_state_digest", "verification_boundary_digest", "verifier_id",
      "verifier_identity_digest", "verification_strength_digest", "result_digest"] ++
    [.integer "execution_epoch" 1 "execution_epoch must be >= 1", .timestamp "checked_at",
      .equals "verification_strength_class" independentProviderReadback
        "verification strength class is unsupported",
      .oneOf "verdict" [verified, notVerified] "verification verdict is unsupported",
      .oneOf "reason" [observedStateMatch, observedStateMismatch]
        "verification reason is unsupported"]
  ofAttributes := ofAttributes
  claims := claims
  digest := resultDigest
  withDigest result digest := { result with resultDigest := digest }
  check _ result := do
    raiseIf (result.verdict = verified ∧ result.reason ≠ observedStateMatch)
      (valueError "VERIFIED requires OBSERVED_STATE_MATCH")
    raiseIf (result.verdict = notVerified ∧ result.reason ≠ observedStateMismatch)
      (valueError "NOT_VERIFIED requires OBSERVED_STATE_MISMATCH")

theorem lawful : contract.Lawful where
  ofAttributes_eq self result digest same := by
    simp only [contract, claims, List.cons_append, List.nil_append, List.forall_mem_cons] at same
    simp [contract, ofAttributes, Attributes.text, Attributes.int, Json.text?, same]

def toDict (result : VerificationResult) : Json :=
  contract.toDict result

def fromDict (sha256 : String → String) (value : Json) : Except Raised VerificationResult :=
  contract.fromDict sha256 value

/-- `_parameters`. -/
def row (result : VerificationResult) : VerificationResultRow where
  executionId := result.executionId
  executionEpoch := result.executionEpoch
  targetDigest := result.targetDigest
  runnerObservationDigest := result.runnerObservationDigest
  verifierObservationDigest := result.verifierObservationDigest
  observedPostStateDigest := result.observedPostStateDigest
  verificationBoundaryDigest := result.verificationBoundaryDigest
  verifierId := result.verifierId
  verifierIdentityDigest := result.verifierIdentityDigest
  verificationStrengthDigest := result.verificationStrengthDigest
  verificationStrengthClass := result.verificationStrengthClass
  verdict := result.verdict
  reason := result.reason
  checkedAt := result.checkedAt
  resultRevision := result.resultRevision
  resultDigest := result.resultDigest
  result := result.toDict

end VerificationResult

end VoodooOne
