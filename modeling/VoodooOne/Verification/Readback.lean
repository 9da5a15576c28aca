import VoodooOne.Verification.PostState

/-!
# Independent readback

A verification compares what a verifier read with what a runner read.  It is made only when both
observations and the boundary between their readers name the same act, and it returns the state
that was read, the strength of the evidence and a verdict.
-/

namespace VoodooOne

open Calendar

/-- Names of the bindings whose two sides differ, in order. -/
def mismatchedNames (bindings : List (String × Json × Json)) : List String :=
  sortedNames ((bindings.filter fun binding => binding.2.1 ≠ binding.2.2).map Prod.fst)

theorem mismatchedNames_eq_nil {bindings : List (String × Json × Json)} :
    mismatchedNames bindings = [] ↔ ∀ binding ∈ bindings, binding.2.1 = binding.2.2 := by
  have perm := ((bindings.filter fun binding => binding.2.1 ≠ binding.2.2).map
    Prod.fst).perm_insertionSort (· ≤ ·)
  have empty : mismatchedNames bindings = [] ↔
      (bindings.filter fun binding => binding.2.1 ≠ binding.2.2).map Prod.fst = [] :=
    ⟨fun sorted => List.nil_perm.mp (sorted ▸ perm), fun none => List.perm_nil.mp (none ▸ perm)⟩
  simp [empty]

/-- Runner observation, verifier observation and the boundary between them, as their constructors
return them. -/
structure ReadbackEvidence (sha256 : String → String) where
  runner : GitHubRefObservation
  verifier : VerifierGitHubRefObservation
  boundary : IndependentVerificationBoundary
  runnerBuilt : GitHubRefObservation.contract.Built sha256 runner
  verifierBuilt : VerifierGitHubRefObservation.contract.Built sha256 verifier
  boundaryBuilt : IndependentVerificationBoundary.contract.Built sha256 boundary

namespace ReadbackEvidence

variable {sha256 : String → String} (evidence : ReadbackEvidence sha256)

def bindings : List (String × Json × Json) :=
  let { runner, verifier, boundary, .. } := evidence
  [("boundary_runner_observation", .str boundary.runnerObservationDigest,
      .str runner.observationDigest),
    ("boundary_runner_id", .str boundary.runnerId, .str runner.runnerId),
    ("boundary_runner_instance", .str boundary.runnerProviderInstanceId,
      .str runner.providerInstanceId),
    ("boundary_runner_boundary", .str boundary.runnerBoundaryDigest,
      .str runner.runnerBoundaryDigest),
    ("boundary_target", .str boundary.targetDigest, .str runner.targetDigest),
    ("boundary_execution", .str boundary.executionId, .str runner.executionId),
    ("boundary_epoch", .int boundary.executionEpoch, .int runner.executionEpoch),
    ("verifier_boundary", .str verifier.verificationBoundaryDigest, .str boundary.boundaryDigest),
    ("verifier_runner_observation", .str verifier.runnerObservationDigest,
      .str runner.observationDigest),
    ("verifier_target", .str verifier.targetDigest, .str runner.targetDigest),
    ("verifier_execution", .str verifier.executionId, .str runner.executionId),
    ("verifier_epoch", .int verifier.executionEpoch, .int runner.executionEpoch),
    ("verifier_id", .str verifier.verifierId, .str boundary.verifierId),
    ("verifier_identity", .str verifier.verifierIdentityDigest,
      .str boundary.verifierIdentityDigest),
    ("verifier_provider", .str verifier.provider, .str boundary.verifierProvider),
    ("verifier_instance", .str verifier.providerInstanceId,
      .str boundary.verifierProviderInstanceId)]

def mismatches : List String := mismatchedNames evidence.bindings

/-- The denial that names the bindings. -/
def bindingMismatch : Raised :=
  ⟨.verificationEvidenceDenied,
    "VERIFICATION_EVIDENCE_BINDING_MISMATCH:" ++ String.intercalate "," evidence.mismatches⟩

/-- Both observations are of the same repository and reference. -/
def SameTarget : Prop :=
  evidence.verifier.repository = evidence.runner.repository ∧
    evidence.verifier.ref = evidence.runner.ref

instance : Decidable evidence.SameTarget := inferInstanceAs (Decidable (_ ∧ _))

/-- `_assert_verification_evidence_bound`. -/
def assertBound : Except Raised Unit := do
  raiseIf (evidence.mismatches ≠ []) evidence.bindingMismatch
  raiseIf (¬evidence.SameTarget)
    ⟨.verificationEvidenceDenied, "VERIFICATION_TARGET_CLAIMS_MISMATCH"⟩
  let runnerObservedAt ← requireTimestamp (.str evidence.runner.observedAt)
    "runner_observation.observed_at"
  let verifierObservedAt ← requireTimestamp (.str evidence.verifier.observedAt)
    "verifier_observation.observed_at"
  raiseIf (verifierObservedAt < runnerObservedAt)
    ⟨.verificationEvidenceDenied, "VERIFIER_OBSERVATION_PRECEDES_RUNNER_OBSERVATION"⟩

def stateDraft (revision : String) : ObservedPostState :=
  let { verifier, boundary, .. } := evidence
  { executionId := verifier.executionId
    executionEpoch := verifier.executionEpoch
    targetDigest := verifier.targetDigest
    stateKind := gitRefStateKind
    stateClaims := [("repository", verifier.repository), ("ref", verifier.ref),
      ("commit_sha", verifier.commitSha)]
    provider := verifier.provider
    providerInstanceId := verifier.providerInstanceId
    sourceIdentity := verifier.sourceIdentity
    verifierId := verifier.verifierId
    verifierIdentityDigest := verifier.verifierIdentityDigest
    verificationBoundaryDigest := boundary.boundaryDigest
    verifierObservationDigest := verifier.observationDigest
    observedAt := verifier.observedAt
    stateRevision := revision
    stateDigest := "" }

def Matches : Prop := evidence.verifier.commitSha = evidence.runner.commitSha

instance : Decidable evidence.Matches := inferInstanceAs (Decidable (_ = _))

def resultDraft (state : ObservedPostState) (strength : VerificationStrength)
    (revision : String) : VerificationResult :=
  let { runner, verifier, boundary, .. } := evidence
  { executionId := verifier.executionId
    executionEpoch := verifier.executionEpoch
    targetDigest := verifier.targetDigest
    runnerObservationDigest := runner.observationDigest
    verifierObservationDigest := verifier.observationDigest
    observedPostStateDigest := state.stateDigest
    verificationBoundaryDigest := boundary.boundaryDigest
    verifierId := verifier.verifierId
    verifierIdentityDigest := verifier.verifierIdentityDigest
    verificationStrengthDigest := strength.strengthDigest
    verificationStrengthClass := strength.strengthClass
    verdict := if evidence.Matches then verified else notVerified
    reason := if evidence.Matches then observedStateMatch else observedStateMismatch
    checkedAt := verifier.observedAt
    resultRevision := revision
    resultDigest := "" }

/-- The labels of the three artifacts. -/
structure Revisions where
  observedPostStateRevision : String
  strengthRevision : String
  resultRevision : String

/-- The labels under their names. -/
def Revisions.textFields (revisions : Revisions) : List (String × String) :=
  [("observed_post_state_revision", revisions.observedPostStateRevision),
    ("strength_revision", revisions.strengthRevision),
    ("result_revision", revisions.resultRevision)]

/-- `verify_github_ref_readback`. -/
def verify (revisions : Revisions) :
    Except Raised (ObservedPostState × VerificationStrength × VerificationResult) := do
  evidence.assertBound
  requireTextFields revisions.textFields
  let state ← ObservedPostState.create sha256
    (evidence.stateDraft revisions.observedPostStateRevision)
  let strength ← VerificationStrength.create sha256 evidence.boundary.boundaryDigest
    evidence.verifier.observationDigest revisions.strengthRevision
  let result ← VerificationResult.contract.create sha256
    (evidence.resultDraft state strength revisions.resultRevision)
  return (state, strength, result)

/-- Observations and boundary name the same act. -/
structure SameAct : Prop where
  execution : evidence.verifier.executionId = evidence.runner.executionId ∧
    evidence.boundary.executionId = evidence.runner.executionId
  epoch : evidence.verifier.executionEpoch = evidence.runner.executionEpoch ∧
    evidence.boundary.executionEpoch = evidence.runner.executionEpoch
  target : evidence.verifier.targetDigest = evidence.runner.targetDigest ∧
    evidence.boundary.targetDigest = evidence.runner.targetDigest
  observation : evidence.verifier.runnerObservationDigest = evidence.runner.observationDigest ∧
    evidence.boundary.runnerObservationDigest = evidence.runner.observationDigest

/-- Each observation was made by the party that the boundary names. -/
structure OfBoundary : Prop where
  boundary : evidence.verifier.verificationBoundaryDigest = evidence.boundary.boundaryDigest
  verifierId : evidence.verifier.verifierId = evidence.boundary.verifierId
  verifierIdentity :
    evidence.verifier.verifierIdentityDigest = evidence.boundary.verifierIdentityDigest
  verifierProvider : evidence.verifier.provider = evidence.boundary.verifierProvider
  verifierInstance :
    evidence.verifier.providerInstanceId = evidence.boundary.verifierProviderInstanceId
  runnerId : evidence.boundary.runnerId = evidence.runner.runnerId
  runnerInstance :
    evidence.boundary.runnerProviderInstanceId = evidence.runner.providerInstanceId
  runnerBoundary : evidence.boundary.runnerBoundaryDigest = evidence.runner.runnerBoundaryDigest

/-- Verifier and runner differ in id, provider instance and credential class. -/
structure Separate : Prop where
  id : evidence.verifier.verifierId ≠ evidence.runner.runnerId
  providerInstance : evidence.verifier.providerInstanceId ≠ evidence.runner.providerInstanceId
  credential : evidence.boundary.verifierCredentialClass ≠ evidence.boundary.runnerCredentialClass

/-- The verifier read no earlier than the runner. -/
def Ordered : Prop :=
  ∃ runnerObservedAt verifierObservedAt : Instant,
    evidence.runner.observedAt = runnerObservedAt.isoformat ∧
      evidence.verifier.observedAt = verifierObservedAt.isoformat ∧
        runnerObservedAt ≤ verifierObservedAt

variable {evidence}

theorem mismatches_eq_nil : evidence.mismatches = [] ↔ evidence.SameAct ∧ evidence.OfBoundary := by
  rw [mismatches, mismatchedNames_eq_nil]
  simp only [bindings, List.forall_mem_cons, Json.str.injEq, Json.int.injEq]
  constructor
  · rintro ⟨observation, runnerId, runnerInstance, runnerBoundary, target, execution, epoch,
      boundary, verifierObservation, verifierTarget, verifierExecution, verifierEpoch, verifierId,
      verifierIdentity, verifierProvider, verifierInstance, -⟩
    exact ⟨⟨⟨verifierExecution, execution⟩, ⟨verifierEpoch, epoch⟩, ⟨verifierTarget, target⟩,
      ⟨verifierObservation, observation⟩⟩, ⟨boundary, verifierId, verifierIdentity,
      verifierProvider, verifierInstance, runnerId, runnerInstance, runnerBoundary⟩⟩
  · rintro ⟨act, parties⟩
    exact ⟨act.observation.2, parties.runnerId, parties.runnerInstance, parties.runnerBoundary,
      act.target.2, act.execution.2, act.epoch.2, parties.boundary, act.observation.1,
      act.target.1, act.execution.1, act.epoch.1, parties.verifierId, parties.verifierIdentity,
      parties.verifierProvider, parties.verifierInstance, List.forall_mem_nil _⟩

theorem OfBoundary.separate (parties : evidence.OfBoundary) : evidence.Separate := by
  have checked := evidence.boundaryBuilt.checked
  simp only [IndependentVerificationBoundary.contract, bind_eq_ok, raiseIf_eq_ok] at checked
  obtain ⟨_, ids, _, instances, credentials⟩ := checked
  exact ⟨fun same => ids (parties.verifierId.symm.trans (same.trans parties.runnerId.symm)),
    fun same => instances
      (parties.verifierInstance.symm.trans (same.trans parties.runnerInstance.symm)), credentials⟩

theorem runner_observedAt (evidence : ReadbackEvidence sha256) : ∃ instant : Instant,
    evidence.runner.observedAt = instant.isoformat ∧ ValidText instant.isoformat := by
  refine evidence.runnerBuilt.timestamp GitHubRefObservation.lawful "observed_at" ?_ ?_
  · simp [GitHubRefObservation.contract]
  · simp [GitHubRefObservation.contract, GitHubRefObservation.claims]

theorem verifier_observedAt (evidence : ReadbackEvidence sha256) : ∃ instant : Instant,
    evidence.verifier.observedAt = instant.isoformat ∧ ValidText instant.isoformat := by
  refine evidence.verifierBuilt.timestamp VerifierGitHubRefObservation.lawful "observed_at" ?_ ?_
  · simp [VerifierGitHubRefObservation.contract]
  · simp [VerifierGitHubRefObservation.contract, VerifierGitHubRefObservation.claims]

theorem verifier_epoch (evidence : ReadbackEvidence sha256) :
    1 ≤ evidence.verifier.executionEpoch := by
  have checked : .integer "execution_epoch" 1 "execution_epoch must be >= 1" ∈
      VerifierGitHubRefObservation.contract.checks := by
    simp [VerifierGitHubRefObservation.contract]
  refine evidence.verifierBuilt.minimum_le VerifierGitHubRefObservation.lawful _ checked ?_
  simp [VerifierGitHubRefObservation.contract, VerifierGitHubRefObservation.claims]

theorem verifier_texts (evidence : ReadbackEvidence sha256) :
    ∀ named ∈ [("repository", evidence.verifier.repository), ("ref", evidence.verifier.ref),
      ("commit_sha", evidence.verifier.commitSha), ("execution_id", evidence.verifier.executionId),
      ("provider", evidence.verifier.provider),
      ("provider_instance_id", evidence.verifier.providerInstanceId),
      ("source_identity", evidence.verifier.sourceIdentity)], ValidText named.2 := by
  refine evidence.verifierBuilt.validTexts VerifierGitHubRefObservation.lawful _ ?_
  simp [VerifierGitHubRefObservation.contract, VerifierGitHubRefObservation.claims, requireTexts]

theorem verifier_digests (evidence : ReadbackEvidence sha256) :
    ∀ named ∈ [("target_digest", evidence.verifier.targetDigest),
      ("verifier_id", evidence.verifier.verifierId),
      ("verifier_identity_digest", evidence.verifier.verifierIdentityDigest),
      ("observation_digest", evidence.verifier.observationDigest)], IsDigest named.2 := by
  refine evidence.verifierBuilt.isDigests VerifierGitHubRefObservation.lawful _ ?_
  simp [VerifierGitHubRefObservation.contract, VerifierGitHubRefObservation.claims, requireDigests]

theorem runner_digest (evidence : ReadbackEvidence sha256) :
    IsDigest evidence.runner.observationDigest := by
  refine evidence.runnerBuilt.isDigests GitHubRefObservation.lawful
    [("observation_digest", evidence.runner.observationDigest)] ?_ _ (List.mem_singleton_self _)
  simp [GitHubRefObservation.contract, requireDigests]

theorem boundary_digest (evidence : ReadbackEvidence sha256) :
    IsDigest evidence.boundary.boundaryDigest := by
  refine evidence.boundaryBuilt.isDigests IndependentVerificationBoundary.lawful
    [("boundary_digest", evidence.boundary.boundaryDigest)] ?_ _ (List.mem_singleton_self _)
  simp [IndependentVerificationBoundary.contract, requireDigests]

theorem ordered_iff {runnerObservedAt verifierObservedAt : Instant}
    (runner : evidence.runner.observedAt = runnerObservedAt.isoformat)
    (verifier : evidence.verifier.observedAt = verifierObservedAt.isoformat) :
    evidence.Ordered ↔ runnerObservedAt ≤ verifierObservedAt := by
  constructor
  · rintro ⟨runnerAt, verifierAt, runnerSame, verifierSame, order⟩
    rw [Instant.isoformat_injective (runner.symm.trans runnerSame),
      Instant.isoformat_injective (verifier.symm.trans verifierSame)]
    exact order
  · exact fun order => ⟨_, _, runner, verifier, order⟩

/-- The reason for which evidence is denied, if there is one. -/
inductive Denied (evidence : ReadbackEvidence sha256) : Raised → Prop
  | bindings : evidence.mismatches ≠ [] → Denied evidence evidence.bindingMismatch
  | target : evidence.mismatches = [] → ¬evidence.SameTarget →
      Denied evidence ⟨.verificationEvidenceDenied, "VERIFICATION_TARGET_CLAIMS_MISMATCH"⟩
  | order : evidence.mismatches = [] → evidence.SameTarget → ¬evidence.Ordered → Denied evidence
        ⟨.verificationEvidenceDenied, "VERIFIER_OBSERVATION_PRECEDES_RUNNER_OBSERVATION"⟩

theorem assertBound_cases (evidence : ReadbackEvidence sha256) :
    (evidence.assertBound = .ok () ∧ evidence.mismatches = [] ∧ evidence.SameTarget ∧
      evidence.Ordered) ∨
    ∃ raised, evidence.assertBound = .error raised ∧ Denied evidence raised := by
  obtain ⟨runnerAt, runner, runnerValid⟩ := evidence.runner_observedAt
  obtain ⟨verifierAt, verifier, verifierValid⟩ := evidence.verifier_observedAt
  have runnerRead (field : String) : requireTimestamp (.str evidence.runner.observedAt) field =
      .ok runnerAt := requireTimestamp_eq_ok.mpr ⟨by rw [runner], runnerValid⟩
  have verifierRead (field : String) :
      requireTimestamp (.str evidence.verifier.observedAt) field = .ok verifierAt :=
    requireTimestamp_eq_ok.mpr ⟨by rw [verifier], verifierValid⟩
  simp only [assertBound, runnerRead, verifierRead]
  by_cases bound : evidence.mismatches = []
  · by_cases target : evidence.SameTarget
    · by_cases earlier : verifierAt < runnerAt
      · have disordered : ¬evidence.Ordered := fun ordered =>
          absurd ((ordered_iff runner verifier).mp ordered) (not_le.mpr earlier)
        refine .inr ⟨_, ?_, .order bound target disordered⟩
        simp [bound, target, earlier, raiseIf, bind, Except.bind]
      · refine .inl ⟨?_, bound, target, (ordered_iff runner verifier).mpr (not_lt.mp earlier)⟩
        simp [bound, target, earlier, raiseIf, bind, Except.bind]
    · refine .inr ⟨_, ?_, .target bound target⟩
      simp [bound, target, raiseIf, bind, Except.bind]
  · refine .inr ⟨_, ?_, .bindings bound⟩
    simp [bound, raiseIf, bind, Except.bind]

theorem stateDraft_valid {revision : String} (valid : ValidText revision) :
    (evidence.stateDraft revision).Valid := by
  have texts := evidence.verifier_texts
  have digests := evidence.verifier_digests
  simp only [List.forall_mem_cons] at texts digests
  obtain ⟨repository, ref, commitSha, executionId, provider, providerInstance, source, -⟩ := texts
  obtain ⟨target, verifierId, identity, observation, -⟩ := digests
  obtain ⟨instant, observedAt, isTime⟩ := evidence.verifier_observedAt
  constructor
  case texts =>
    simp only [ObservedPostState.textFields, stateDraft, List.forall_mem_cons]
    exact ⟨executionId, by decide, provider, providerInstance, source, valid, List.forall_mem_nil _⟩
  case digests =>
    simp only [ObservedPostState.digestFields, stateDraft, List.forall_mem_cons]
    exact ⟨target, verifierId, identity, evidence.boundary_digest, observation,
      List.forall_mem_nil _⟩
  case epoch => exact evidence.verifier_epoch
  case nonempty => exact List.cons_ne_nil _ _
  case claims =>
    simp only [stateDraft, List.forall_mem_cons]
    exact ⟨⟨by decide, repository⟩, ⟨by decide, ref⟩, ⟨by decide, commitSha⟩, List.forall_mem_nil _⟩
  case distinct => exact (by decide : ["repository", "ref", "commit_sha"].Nodup)
  case observedAt => exact ⟨instant, observedAt, isTime⟩

def state (evidence : ReadbackEvidence sha256) (revisions : Revisions) : ObservedPostState :=
  (evidence.stateDraft revisions.observedPostStateRevision).sealed sha256

def strength (evidence : ReadbackEvidence sha256) (revisions : Revisions) : VerificationStrength :=
  VerificationStrength.ofReadback sha256 evidence.boundary.boundaryDigest
    evidence.verifier.observationDigest revisions.strengthRevision

def result (evidence : ReadbackEvidence sha256) (revisions : Revisions) : VerificationResult :=
  let draft := evidence.resultDraft (evidence.state revisions) (evidence.strength revisions)
    revisions.resultRevision
  VerificationResult.contract.withDigest draft
    (digestOf sha256 (VerificationResult.contract.claimsWithoutDigest draft))

variable {sha256 : Sha256} {evidence : ReadbackEvidence sha256.hexdigest} {revisions : Revisions}

theorem result_created (valid : ValidText revisions.resultRevision) :
    VerificationResult.contract.create sha256.hexdigest (evidence.resultDraft
      (evidence.state revisions) (evidence.strength revisions) revisions.resultRevision) =
        .ok (evidence.result revisions) := by
  have texts := evidence.verifier_texts
  have digests := evidence.verifier_digests
  simp only [List.forall_mem_cons] at texts digests
  obtain ⟨-, -, -, executionId, -⟩ := texts
  obtain ⟨target, verifierId, identity, observation, -⟩ := digests
  obtain ⟨instant, observedAt, isTime⟩ := evidence.verifier_observedAt
  have digest {text : String} (isDigest : IsDigest text) : ValidText text ∧ IsDigest text :=
    ⟨validText_of_isDigest isDigest, isDigest⟩
  have own (text : String) := digest (sha256.isDigest text)
  refine Contract.create_of_holds VerificationResult.lawful _
    (evidence.result revisions).resultDigest rfl (fun self reads => ?_) ?_
  · simp only [VerificationResult.contract, Contract.fieldsWith, Contract.claimFields,
      VerificationResult.claims, resultDraft, List.cons_append, List.nil_append,
      List.forall_mem_cons] at reads
    simp only [VerificationResult.contract, requireTexts, requireDigests, List.map_cons,
      List.map_nil, List.cons_append, List.nil_append, List.forall_mem_cons, AttributeCheck.Holds,
      Attributes.text, Attributes.int, Json.text?, reads, Option.getD_some, true_and]
    refine ⟨executionId, (by decide : ValidText independentProviderReadback), ?verdict, ?reason,
      valid, digest target, digest evidence.runner_digest, digest observation, own _,
      digest evidence.boundary_digest, digest verifierId, digest identity, own _, own _,
      evidence.verifier_epoch, ⟨observedAt ▸ isTime, instant, observedAt⟩, rfl, ?verdicts,
      ?reasons, List.forall_mem_nil _⟩
    all_goals split <;> decide
  · simp only [VerificationResult.contract, resultDraft, bind_eq_ok, raiseIf_eq_ok]
    split <;> exact ⟨(), by decide, by decide⟩

theorem verify_of_bound (bound : evidence.assertBound = .ok ())
    (valid : ∀ named ∈ revisions.textFields, ValidText named.2) : evidence.verify revisions =
      .ok (evidence.state revisions, evidence.strength revisions, evidence.result revisions) := by
  have texts : requireTextFields revisions.textFields = .ok () := requireTextFields_eq_ok.mpr valid
  simp only [Revisions.textFields, List.forall_mem_cons] at valid
  obtain ⟨stateValid, strengthValid, resultValid, -⟩ := valid
  have observation : IsDigest evidence.verifier.observationDigest :=
    evidence.verifier_digests ("observation_digest", _) (by simp)
  have state : ObservedPostState.create sha256.hexdigest (evidence.stateDraft
      revisions.observedPostStateRevision) = .ok (evidence.state revisions) :=
    (ObservedPostState.create_eq_ok sha256).mpr ⟨stateDraft_valid stateValid, rfl⟩
  have strength : VerificationStrength.create sha256.hexdigest evidence.boundary.boundaryDigest
      evidence.verifier.observationDigest revisions.strengthRevision =
        .ok (evidence.strength revisions) :=
    VerificationStrength.create_readback evidence.boundary_digest observation strengthValid
  simp only [verify, bind_eq_ok, pure_eq_ok]
  exact ⟨(), bound, (), texts, _, state, _, strength, _, result_created resultValid, rfl⟩

theorem Denied.unique {first second : Raised} (left : evidence.Denied first)
    (right : evidence.Denied second) : first = second := by
  cases left <;> cases right <;> first | rfl | contradiction

theorem assertBound_eq_ok : evidence.assertBound = .ok () ↔
    evidence.mismatches = [] ∧ evidence.SameTarget ∧ evidence.Ordered := by
  constructor
  · intro passed
    obtain ⟨-, held⟩ | ⟨raised, failed, -⟩ := evidence.assertBound_cases
    · exact held
    · cases passed.symm.trans failed
  · rintro ⟨bound, target, ordered⟩
    obtain ⟨passed, -⟩ | ⟨raised, -, denied⟩ := evidence.assertBound_cases
    · exact passed
    · cases denied <;> contradiction

theorem assertBound_eq_error {raised : Raised} :
    evidence.assertBound = .error raised ↔ evidence.Denied raised := by
  obtain ⟨passed, bound, target, ordered⟩ | ⟨other, failed, denied⟩ := evidence.assertBound_cases
  · rw [passed]
    constructor
    · intro impossible
      cases impossible
    · intro denied
      cases denied <;> contradiction
  · rw [failed, Except.error.injEq]
    exact ⟨fun same => same ▸ denied, fun again => denied.unique again⟩

theorem verify_eq_ok {artifacts : ObservedPostState × VerificationStrength × VerificationResult} :
    evidence.verify revisions = .ok artifacts ↔
      evidence.assertBound = .ok () ∧ (∀ named ∈ revisions.textFields, ValidText named.2) ∧
        artifacts = (evidence.state revisions, evidence.strength revisions,
          evidence.result revisions) := by
  constructor
  · intro verified
    have verify := verified
    rw [ReadbackEvidence.verify, bind_eq_ok] at verify
    obtain ⟨_, bound, rest⟩ := verify
    rw [bind_eq_ok] at rest
    obtain ⟨_, texts, -⟩ := rest
    have valid := requireTextFields_eq_ok.mp texts
    exact ⟨bound, valid, Except.ok.inj (verified.symm.trans (verify_of_bound bound valid))⟩
  · rintro ⟨bound, valid, rfl⟩
    exact verify_of_bound bound valid

theorem verify_eq_error {raised : Raised} : evidence.verify revisions = .error raised ↔
    evidence.Denied raised ∨ (evidence.assertBound = .ok () ∧
      requireTextFields revisions.textFields = .error raised) := by
  cases bound : evidence.assertBound with
  | error denial =>
      have verify : evidence.verify revisions = .error denial := by
        rw [ReadbackEvidence.verify, bound]
        rfl
      rw [verify, ← assertBound_eq_error, bound]
      simp
  | ok =>
      have accepted : ¬evidence.Denied raised := by
        rw [← assertBound_eq_error, bound]
        simp
      cases texts : requireTextFields revisions.textFields with
      | error invalid =>
          have verify : evidence.verify revisions = .error invalid := by
            rw [ReadbackEvidence.verify, bound, ok_bind, texts]
            rfl
          simp [verify, accepted]
      | ok =>
          rw [verify_of_bound bound (requireTextFields_eq_ok.mp texts)]
          simp [accepted]

theorem mem_mismatches {name : String} : name ∈ evidence.mismatches ↔
    ∃ binding ∈ evidence.bindings, binding.1 = name ∧ binding.2.1 ≠ binding.2.2 := by
  have perm := ((evidence.bindings.filter fun binding => binding.2.1 ≠ binding.2.2).map
    Prod.fst).perm_insertionSort (· ≤ ·)
  rw [mismatches, mismatchedNames, sortedNames, perm.mem_iff, List.mem_map]
  simp only [List.mem_filter, decide_eq_true_eq, and_assoc]
  exact exists_congr fun binding => by tauto

end ReadbackEvidence

/-- A readback concludes only about evidence of one act that two separate parties read in order,
and by comparing what they read.  Everything else is refused for the first reason there is. -/
theorem readback_sound_and_exact (sha256 : Sha256) (evidence : ReadbackEvidence sha256.hexdigest)
    (revisions : ReadbackEvidence.Revisions) :
    (∀ state strength result, evidence.verify revisions = .ok (state, strength, result) →
      (evidence.SameAct ∧ evidence.SameTarget ∧ evidence.OfBoundary ∧ evidence.Separate ∧
        evidence.Ordered) ∧
      (result.verdict = verified ↔ evidence.verifier.commitSha = evidence.runner.commitSha) ∧
      (result.verdict = notVerified ↔ evidence.verifier.commitSha ≠ evidence.runner.commitSha)) ∧
    (∀ name, name ∈ evidence.mismatches ↔
      ∃ binding ∈ evidence.bindings, binding.1 = name ∧ binding.2.1 ≠ binding.2.2) ∧
    (∀ raised, evidence.verify revisions = .error raised ↔ evidence.Denied raised ∨
      (evidence.mismatches = [] ∧ evidence.SameTarget ∧ evidence.Ordered) ∧
        ∃ named, revisions.textFields.find? (fun named => ¬ValidText named.2) = some named ∧
          raised = valueError (named.1 ++ " is invalid")) := by
  refine ⟨fun state strength result accepted => ?_, fun name => ReadbackEvidence.mem_mismatches,
    fun raised => ?_⟩
  · obtain ⟨bound, -, same⟩ := ReadbackEvidence.verify_eq_ok.mp accepted
    obtain ⟨none, target, ordered⟩ :=
      ReadbackEvidence.assertBound_eq_ok.mp bound
    obtain ⟨act, parties⟩ := ReadbackEvidence.mismatches_eq_nil.mp none
    obtain ⟨-, -, rfl⟩ : state = _ ∧ strength = _ ∧ result = _ := by simpa using same
    have verdict : (evidence.result revisions).verdict =
        if evidence.Matches then verified else notVerified := rfl
    refine ⟨⟨act, target, parties, parties.separate, ordered⟩, ?_, ?_⟩
    · rw [verdict]
      split
      · next equal => exact iff_of_true rfl equal
      · next differ => exact iff_of_false (by decide) differ
    · rw [verdict]
      split
      · next equal => exact iff_of_false (by decide) (not_not.mpr equal)
      · next differ => exact iff_of_true rfl differ
  · rw [ReadbackEvidence.verify_eq_error, ReadbackEvidence.assertBound_eq_ok,
      requireTextFields_eq_error]

namespace UnlabelledReadback

def digest : String := repeatedDigit '0'

def commit : String := String.ofList (List.replicate 40 'a')

def runner : GitHubRefObservation where
  repository := "acme/one"
  ref := "refs/heads/main"
  commitSha := commit
  targetDigest := digest
  provider := githubProvider
  providerInstanceId := "runner_1"
  runnerId := repeatedDigit '1'
  runnerBoundaryDigest := digest
  credentialDecisionDigest := digest
  runtimeActivationDigest := digest
  leaseId := digest
  leaseDigest := digest
  executionId := "exec_1"
  executionEpoch := 1
  executionCapsuleDigest := digest
  capabilityDefinitionIdentity := digest
  sourceIdentity := "github"
  clockSourceIdentity := "clock"
  clockWitnessDigest := digest
  observedAt := sampleTime.isoformat
  observationRevision := "r1"
  observationDigest := digest

def boundary : IndependentVerificationBoundary where
  verifierId := repeatedDigit '2'
  verifierIdentityDigest := digest
  verifierClass := "verifier"
  verifierProvider := githubProvider
  verifierProviderInstanceId := "verifier_1"
  verifierCredentialClass := "github.read/verifier"
  runnerId := repeatedDigit '1'
  runnerIdentityDigest := digest
  runnerBoundaryDigest := digest
  runnerProviderInstanceId := "runner_1"
  runnerCredentialClass := "github.read/runner"
  executionId := "exec_1"
  executionEpoch := 1
  targetDigest := digest
  runnerObservationDigest := digest
  environment := "staging"
  effectCeiling := readOnlyEffectClass
  networkEgressDefault := denyAllNetworkDefault
  providerMutationAllowed := .bool false
  independenceClass := independenceClass
  boundaryRevision := "r1"
  boundaryDigest := digest

def verifier : VerifierGitHubRefObservation where
  repository := "acme/one"
  ref := "refs/heads/main"
  commitSha := commit
  targetDigest := digest
  provider := githubProvider
  providerInstanceId := "verifier_1"
  verifierId := repeatedDigit '2'
  verifierIdentityDigest := digest
  verificationBoundaryDigest := digest
  verifierCredentialDecisionId := digest
  verifierCredentialDecisionDigest := digest
  runnerObservationDigest := digest
  executionId := "exec_1"
  executionEpoch := 1
  sourceIdentity := "github"
  accessClockSourceIdentity := "clock"
  accessClockWitnessDigest := digest
  credentialCheckedAt := sampleTime.isoformat
  clockSourceIdentity := "clock"
  clockWitnessDigest := digest
  observedAt := sampleTime.isoformat
  observationRevision := "r1"
  observationDigest := digest

theorem digestOf_sampleDigest (value : Json) : digestOf sampleDigest.hexdigest value = digest := rfl

theorem digest_passes {character : Char} (hexadecimal : character ∈ "0123456789abcdef".toList) :
    ValidText (repeatedDigit character) ∧ IsDigest (repeatedDigit character) :=
  ⟨validText_of_isDigest (isDigest_repeatedDigit hexadecimal), isDigest_repeatedDigit hexadecimal⟩

theorem runner_created : GitHubRefObservation.contract.create sampleDigest.hexdigest runner =
    .ok runner := by
  have zero : ValidText digest ∧ IsDigest digest := digest_passes (by decide)
  refine Contract.create_of_holds GitHubRefObservation.lawful runner digest
    (digestOf_sampleDigest _).symm (fun self reads => ?_) rfl
  simp only [GitHubRefObservation.contract, Contract.fieldsWith, Contract.claimFields,
    GitHubRefObservation.claims, runner, List.cons_append, List.nil_append,
    List.forall_mem_cons] at reads
  simp only [GitHubRefObservation.contract, requireTexts, requireDigests, List.map_cons,
    List.map_nil, List.cons_append, List.nil_append, List.forall_mem_cons, AttributeCheck.Holds,
    Attributes.text, Attributes.int, Json.text?, reads, Option.getD_some, true_and]
  exact ⟨by decide, requireRepositoryForm_str.mpr (by decide), by decide,
    requireRefForm_str.mpr ⟨"main".toList, by decide⟩, by decide,
    requireObjectIdForm_str.mpr (by decide), zero, digest_passes (by decide), zero, zero, zero,
    zero, zero, zero, zero, zero, zero, by decide, by decide, by decide, by decide, by decide,
    by decide, ⟨validText_sampleTime, sampleTime, rfl⟩, rfl, Int.le_refl 1, List.forall_mem_nil _⟩

theorem boundary_created : IndependentVerificationBoundary.contract.create sampleDigest.hexdigest
    boundary = .ok boundary := by
  have zero : ValidText digest ∧ IsDigest digest := digest_passes (by decide)
  refine Contract.create_of_holds IndependentVerificationBoundary.lawful boundary digest
    (digestOf_sampleDigest _).symm (fun self reads => ?_) ?_
  · simp only [IndependentVerificationBoundary.contract, Contract.fieldsWith, Contract.claimFields,
      IndependentVerificationBoundary.claims, boundary, List.cons_append, List.nil_append,
      List.forall_mem_cons] at reads
    simp only [IndependentVerificationBoundary.contract, requireTexts, requireDigests,
      List.map_cons, List.map_nil, List.cons_append, List.nil_append, List.forall_mem_cons,
      AttributeCheck.Holds, Attributes.text, Attributes.int, Json.text?, reads, Option.getD_some,
      true_and]
    exact ⟨digest_passes (by decide), zero, digest_passes (by decide), zero, zero, zero, zero, zero,
      by decide, by decide, by decide, by decide, by decide, by decide, by decide, by decide,
      by decide, rfl, Int.le_refl 1, rfl, List.forall_mem_nil _⟩
  · simp only [IndependentVerificationBoundary.contract, boundary, bind_eq_ok, raiseIf_eq_ok]
    exact ⟨(), by decide, (), by decide, by decide⟩

theorem verifier_created : VerifierGitHubRefObservation.contract.create sampleDigest.hexdigest
    verifier = .ok verifier := by
  have zero : ValidText digest ∧ IsDigest digest := digest_passes (by decide)
  refine Contract.create_of_holds VerifierGitHubRefObservation.lawful verifier digest
    (digestOf_sampleDigest _).symm (fun self reads => ?_) rfl
  simp only [VerifierGitHubRefObservation.contract, Contract.fieldsWith, Contract.claimFields,
    VerifierGitHubRefObservation.claims, verifier, List.cons_append, List.nil_append,
    List.forall_mem_cons] at reads
  simp only [VerifierGitHubRefObservation.contract, requireTexts, requireDigests, List.map_cons,
    List.map_nil, List.cons_append, List.nil_append, List.forall_mem_cons, AttributeCheck.Holds,
    Attributes.text, Attributes.int, Json.text?, reads, Option.getD_some, true_and]
  exact ⟨by decide, by decide, by decide, requireObjectIdForm_str.mpr (by decide), zero,
    digest_passes (by decide), zero, zero, zero, zero, zero, zero, zero, zero, by decide, by decide,
    by decide, by decide, by decide, by decide, by decide, ⟨validText_sampleTime, sampleTime, rfl⟩,
    ⟨validText_sampleTime, sampleTime, rfl⟩, Int.le_refl 1, List.forall_mem_nil _⟩

def evidence : ReadbackEvidence sampleDigest.hexdigest where
  runner := runner
  verifier := verifier
  boundary := boundary
  runnerBuilt := ⟨_, runner_created⟩
  verifierBuilt := ⟨_, verifier_created⟩
  boundaryBuilt := ⟨_, boundary_created⟩

theorem evidence_bound : evidence.assertBound = .ok () := by
  refine ReadbackEvidence.assertBound_eq_ok.mpr ⟨ReadbackEvidence.mismatches_eq_nil.mpr ⟨?_, ?_⟩,
    ⟨rfl, rfl⟩, sampleTime, sampleTime, rfl, rfl, le_refl _⟩
  · exact ⟨⟨rfl, rfl⟩, ⟨rfl, rfl⟩, ⟨rfl, rfl⟩, ⟨rfl, rfl⟩⟩
  · exact ⟨rfl, rfl, rfl, rfl, rfl, rfl, rfl, rfl⟩

/-- Evidence that nothing is wrong with is refused when a label is no text. -/
theorem refused : evidence.verify ⟨"", "r1", "r1"⟩ =
      .error (valueError "observed_post_state_revision is invalid") ∧
    ¬evidence.Denied (valueError "observed_post_state_revision is invalid") := by
  have texts : requireTextFields (ReadbackEvidence.Revisions.textFields ⟨"", "r1", "r1"⟩) =
      .error (valueError "observed_post_state_revision is invalid") :=
    requireTextFields_eq_error.mpr ⟨("observed_post_state_revision", ""), by decide, by decide⟩
  refine ⟨ReadbackEvidence.verify_eq_error.mpr (.inr ⟨evidence_bound, texts⟩), fun denied => ?_⟩
  cases evidence_bound.symm.trans (ReadbackEvidence.assertBound_eq_error.mpr denied)

end UnlabelledReadback

end VoodooOne
