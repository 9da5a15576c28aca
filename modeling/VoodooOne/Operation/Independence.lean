import VoodooOne.Operation.Certification

/-!
# Independence of absence

A proof of absence is as independent as the verification that it computes again.
-/

namespace VoodooOne

open Calendar

/-- A verification of absence, and every proof composed from it, is independent of the runner
exactly
when the provider instance of the runner's reading is not the verifier's and the verifier's reading
is in the interval of its credential decision, unless texts that link the evidence collide. -/
theorem absenceVerification_independent_iff (sha256 : String → String)
    (evidence : AbsenceEvidence sha256) :
    (∀ revisions artifacts, evidence.verify revisions = .ok artifacts →
      (evidence.Independent ↔ evidence.InstancesApart ∧ evidence.InInterval) ∨ evidence.Collides) ∧
    ∀ receipt artifacts proofRevision proof,
      (ProofEvidence.absence evidence.runner evidence.verifier evidence.boundary :
          ProofEvidence sha256).compose receipt artifacts proofRevision = .ok proof →
        (evidence.Independent ↔ evidence.InstancesApart ∧ evidence.InInterval) ∨
          evidence.Collides := by
  have decided (verified : ∃ revisions artifacts, evidence.verify revisions = .ok artifacts) :
      (evidence.Independent ↔ evidence.InstancesApart ∧ evidence.InInterval) ∨
        evidence.Collides := by
    by_cases collides : evidence.Collides
    · exact .inr collides
    · exact .inl (AbsenceEvidence.independent_iff verified collides)
  refine ⟨fun revisions artifacts verified => decided ⟨revisions, artifacts, verified⟩, ?_⟩
  intro receipt artifacts proofRevision proof composed
  exact decided ⟨_, _, (ProofEvidence.bound_of_compose composed).2⟩

namespace ExpiredReading

/-- A digest function that tells one text from all others. -/
def separating (special : String) : Sha256 where
  hexdigest text := repeatedDigit (if text = special then '1' else '0')
  isDigest text := by
    split <;> exact isDigest_repeatedDigit (by decide)

variable (sha256 : Sha256)

def runnerDraft : RunnerIdentity where
  runnerId := ""
  runnerClass := "runner"
  provider := githubProvider
  providerInstanceId := "runner_1"
  environment := "staging"
  rootfsDigest := sha256.someDigest
  resourceLimitProfileDigest := sha256.someDigest
  networkPolicyDigest := sha256.someDigest
  identityRevision := "r1"
  identityDigest := ""

def runnerIdentity : RunnerIdentity :=
  sha256.finish RunnerIdentity.contract { runnerDraft sha256 with
    runnerId := (runnerDraft sha256).logicalIdentity sha256.hexdigest }

def verifierDraft : VerifierIdentity where
  verifierId := ""
  verifierClass := "verifier"
  provider := githubProvider
  providerInstanceId := "verifier_1"
  environment := "staging"
  credentialClass := "github.read/verifier"
  rootfsDigest := sha256.someDigest
  resourceLimitProfileDigest := sha256.someDigest
  networkPolicyDigest := sha256.someDigest
  identityRevision := "r1"
  identityDigest := ""

def verifierIdentity : VerifierIdentity :=
  sha256.finish VerifierIdentity.contract { verifierDraft sha256 with
    verifierId := (verifierDraft sha256).logicalIdentity sha256.hexdigest }

theorem runnerIdentity_created : RunnerIdentity.contract.create sha256.hexdigest
    { runnerDraft sha256 with
      runnerId := (runnerDraft sha256).logicalIdentity sha256.hexdigest } =
    .ok (runnerIdentity sha256) := by
  have digest : ValidText sha256.someDigest ∧ IsDigest sha256.someDigest := sha256.passes _
  have own (text : String) := sha256.passes text
  refine Contract.create_of_holds RunnerIdentity.lawful _ (runnerIdentity sha256).identityDigest rfl
    (fun self reads => ?_) ?_
  · simp only [RunnerIdentity.contract, Contract.fieldsWith, Contract.claimFields,
      RunnerIdentity.claims, runnerDraft, List.cons_append, List.nil_append,
      List.forall_mem_cons] at reads
    simp only [RunnerIdentity.contract, requireTexts, requireDigests, List.map_cons, List.map_nil,
      List.cons_append, List.nil_append, List.forall_mem_cons, AttributeCheck.Holds,
      Attributes.text, Json.text?, reads, Option.getD_some, true_and]
    exact ⟨own _, digest, digest, digest, own _, by decide, by decide, by decide, by decide,
      by decide, List.forall_mem_nil _⟩
  · exact raiseIf_eq_ok.mpr fun other => other rfl

theorem verifierIdentity_created : VerifierIdentity.contract.create sha256.hexdigest
    { verifierDraft sha256 with
      verifierId := (verifierDraft sha256).logicalIdentity sha256.hexdigest } =
    .ok (verifierIdentity sha256) := by
  have digest : ValidText sha256.someDigest ∧ IsDigest sha256.someDigest := sha256.passes _
  have own (text : String) := sha256.passes text
  refine Contract.create_of_holds VerifierIdentity.lawful _
    (verifierIdentity sha256).identityDigest rfl (fun self reads => ?_) ?_
  · simp only [VerifierIdentity.contract, Contract.fieldsWith, Contract.claimFields,
      VerifierIdentity.claims, verifierDraft, List.cons_append, List.nil_append,
      List.forall_mem_cons] at reads
    simp only [VerifierIdentity.contract, requireTexts, requireDigests, List.map_cons,
      List.map_nil, List.cons_append, List.nil_append, List.forall_mem_cons, AttributeCheck.Holds,
      Attributes.text, Json.text?, reads, Option.getD_some, true_and]
    exact ⟨own _, digest, digest, digest, own _, by decide, by decide, by decide, by decide,
      by decide, by decide, List.forall_mem_nil _⟩
  · exact raiseIf_eq_ok.mpr fun other => other rfl

def target : ExecutionTarget where
  targetKind := "git_ref"
  targetClaims := .object [("repository", .str "acme/one"), ("ref", .str "refs/heads/main")]
  targetDigest := sha256.someDigest

theorem target_claims : (target sha256).gitRefClaims = .ok ("acme/one", "refs/heads/main") := by
  have names : ([("repository", Json.str "acme/one"), ("ref", .str "refs/heads/main")].map
      Prod.fst).Nodup := by decide
  have repository : (target sha256).targetClaims.get "repository" = .str "acme/one" :=
    Json.get_object_of_mem names (List.mem_cons_self ..)
  have ref : (target sha256).targetClaims.get "ref" = .str "refs/heads/main" :=
    Json.get_object_of_mem names (List.mem_cons_of_mem _ (List.mem_cons_self ..))
  rw [ExecutionTarget.gitRefClaims, repository, ref]
  rfl

/-- The runner's boundary, without its digest. -/
def runnerBoundaryDraft : RunnerBoundaryV3 where
  runnerId := (runnerIdentity sha256).runnerId
  runnerIdentityDigest := (runnerIdentity sha256).identityDigest
  leaseId := sha256.someDigest
  leaseDigest := sha256.someDigest
  admissionId := sha256.someDigest
  executionId := "exec_1"
  executionEpoch := .int 1
  executionCapsuleDigest := sha256.someDigest
  capabilityDefinitionIdentity := sha256.someDigest
  rollbackRequirementDigest := sha256.someDigest
  conditionContractDigest := sha256.someDigest
  verificationContractIdentity := sha256.someDigest
  environment := stagingEnvironment
  runnerClass := writeRunnerClass
  credentialClass := githubDeleteRefCredentialClass
  effectCeiling := mutationReversibleEffectClass
  networkEgressDefault := denyAllNetworkDefault
  providerMutationAllowed := .bool true
  maxProviderMutations := .int 1
  temporalModel := readThenDeleteNonAtomic
  boundaryRevision := "r1"
  boundaryDigest := ""

def runnerBoundary : RunnerBoundaryV3 :=
  { runnerBoundaryDraft sha256 with
    boundaryDigest := digestOf sha256.hexdigest (runnerBoundaryDraft sha256).claims }

theorem runnerBoundary_checked : (runnerBoundary sha256).postInit sha256.hexdigest = .ok () := by
  have digest : IsDigest sha256.someDigest := sha256.isDigest _
  simp only [RunnerBoundaryV3.postInit, bind_eq_ok, requireDigestFields_eq_ok,
    requireTextFields_eq_ok, raiseIf_eq_ok, not_or, not_not]
  refine ⟨(), ?digests, (), ?texts, (), rfl, (), ⟨rfl, rfl⟩, (), rfl, (), rfl, (), rfl, (),
    ⟨rfl, fun never => Bool.noConfusion never⟩, (), rfl, rfl⟩
  case digests =>
    simp only [List.forall_mem_cons]
    exact ⟨sha256.isDigest _, sha256.isDigest _, digest, digest, digest, digest, digest, digest,
      digest, digest, sha256.isDigest _, List.forall_mem_nil _⟩
  case texts =>
    simp only [List.forall_mem_cons]
    exact ⟨(by decide : ValidText "exec_1"), (by decide : ValidText stagingEnvironment),
      (by decide : ValidText writeRunnerClass),
      (by decide : ValidText githubDeleteRefCredentialClass),
      (by decide : ValidText mutationReversibleEffectClass),
      (by decide : ValidText denyAllNetworkDefault),
      (by decide : ValidText readThenDeleteNonAtomic), (by decide : ValidText "r1"),
      List.forall_mem_nil _⟩

/-- What the runner found, without its digest. -/
def runnerDraftObservation : GitHubRefAbsenceObservation where
  repository := "acme/one"
  ref := "refs/heads/main"
  targetDigest := sha256.someDigest
  provider := githubProvider
  providerInstanceId := "runner_1"
  runnerId := (runnerIdentity sha256).runnerId
  runnerIdentityDigest := (runnerIdentity sha256).identityDigest
  runnerBoundaryDigest := (runnerBoundary sha256).boundaryDigest
  executionId := "exec_1"
  executionEpoch := 1
  sourceIdentity := "github"
  httpStatus := .int httpNotFound
  presence := absent
  observedAt := sampleTime.isoformat
  observationRevision := "r1"
  observationDigest := ""

def runner : GitHubRefAbsenceObservation :=
  sha256.finish GitHubRefAbsenceObservation.contract (runnerDraftObservation sha256)

/-- What the runner's observation is created from. -/
def runnerReading : RunnerReading where
  target := target sha256
  identity := runnerIdentity sha256
  boundary := runnerBoundary sha256
  providerInstanceId := "runner_1"
  sourceIdentity := "github"
  observedAt := sampleTime.isoformat
  observationRevision := "r1"

theorem runner_created : GitHubRefAbsenceObservation.create sha256.hexdigest (target sha256)
    (runnerIdentity sha256) (runnerBoundary sha256) "runner_1" "github" sampleTime.isoformat "r1" =
      .ok (runner sha256) := by
  have digest : ValidText sha256.someDigest ∧ IsDigest sha256.someDigest := sha256.passes _
  have own (text : String) := sha256.passes text
  have built : GitHubRefAbsenceObservation.contract.create sha256.hexdigest
      (runnerDraftObservation sha256) = .ok (runner sha256) := by
    refine Contract.create_of_holds GitHubRefAbsenceObservation.lawful _
      (runner sha256).observationDigest rfl (fun self reads => ?_) rfl
    simp only [GitHubRefAbsenceObservation.contract, Contract.fieldsWith, Contract.claimFields,
      GitHubRefAbsenceObservation.claims, runnerDraftObservation, List.cons_append,
      List.nil_append, List.forall_mem_cons] at reads
    simp only [GitHubRefAbsenceObservation.contract, requireTexts, requireDigests, List.map_cons,
      List.map_nil, List.cons_append, List.nil_append, List.forall_mem_cons, AttributeCheck.Holds,
      Attributes.text, Attributes.int, Json.text?, reads, Option.getD_some, true_and]
    exact ⟨digest, own _, own _, own _, own _, by decide, by decide, by decide, by decide,
      by decide, by decide, by decide, by decide, ⟨validText_sampleTime, sampleTime, rfl⟩,
      Int.le_refl 1, rfl, List.forall_mem_nil _⟩
  simp only [GitHubRefAbsenceObservation.create, bind_eq_ok, raiseIf_eq_ok, not_not,
    requireTextFields_eq_ok, requireTimestamp_eq_ok]
  refine ⟨_, target_claims sha256, (), rfl, (), rfl, (), ?_, sampleTime,
    ⟨rfl, validText_sampleTime⟩, built⟩
  simp only [List.forall_mem_cons]
  exact ⟨by decide, by decide, validText_sampleTime, by decide, List.forall_mem_nil _⟩

theorem runner_built :
    GitHubRefAbsenceObservation.contract.Built sha256.hexdigest (runner sha256) :=
  (GitHubRefAbsenceObservation.of_create (runner_created sha256)).1

def boundaryDraft : IndependentVerificationBoundaryV2 where
  verifierId := (verifierIdentity sha256).verifierId
  verifierIdentityDigest := (verifierIdentity sha256).identityDigest
  verifierProviderInstanceId := "verifier_1"
  verifierCredentialClass := "github.read/verifier"
  runnerId := (runnerIdentity sha256).runnerId
  runnerIdentityDigest := (runnerIdentity sha256).identityDigest
  runnerBoundaryDigest := (runnerBoundary sha256).boundaryDigest
  runnerProviderInstanceId := "runner_1"
  runnerCredentialClass := githubDeleteRefCredentialClass
  executionId := "exec_1"
  executionEpoch := 1
  targetDigest := sha256.someDigest
  runnerObservationDigest := (runner sha256).observationDigest
  environment := stagingEnvironment
  providerMutationAllowed := .bool false
  independenceClass := independenceClass
  boundaryRevision := "r1"
  boundaryDigest := ""

def boundary : IndependentVerificationBoundaryV2 :=
  sha256.finish IndependentVerificationBoundaryV2.contract (boundaryDraft sha256)

theorem boundary_created
    (apart : (verifierIdentity sha256).verifierId ≠ (runnerIdentity sha256).runnerId) :
    IndependentVerificationBoundaryV2.create sha256.hexdigest (verifierIdentity sha256)
      (runnerIdentity sha256) (runnerBoundary sha256) (runner sha256) "r1" =
        .ok (boundary sha256) := by
  have digest : ValidText sha256.someDigest ∧ IsDigest sha256.someDigest := sha256.passes _
  have own (text : String) := sha256.passes text
  have built : IndependentVerificationBoundaryV2.contract.create sha256.hexdigest
      (boundaryDraft sha256) = .ok (boundary sha256) := by
    refine Contract.create_of_holds IndependentVerificationBoundaryV2.lawful _
      (boundary sha256).boundaryDigest rfl (fun self reads => ?_) ?_
    · simp only [IndependentVerificationBoundaryV2.contract, Contract.fieldsWith,
        Contract.claimFields, IndependentVerificationBoundaryV2.claims, boundaryDraft,
        List.cons_append, List.nil_append, List.forall_mem_cons] at reads
      simp only [IndependentVerificationBoundaryV2.contract, requireTexts, requireDigests,
        List.map_cons, List.map_nil, List.cons_append, List.nil_append, List.forall_mem_cons,
        AttributeCheck.Holds, Attributes.text, Attributes.int, Json.text?, reads,
        Option.getD_some, true_and]
      exact ⟨own _, own _, own _, own _, own _, digest, own _, own _, by decide, by decide,
        by decide, by decide, by decide, by decide, by decide, by decide, Int.le_refl 1, rfl,
        List.forall_mem_nil _⟩
    · simp only [IndependentVerificationBoundaryV2.contract, bind_eq_ok, raiseIf_eq_ok]
      exact ⟨(), apart, (), (by decide : "verifier_1" ≠ "runner_1"),
        (by decide : "github.read/verifier" ≠ githubDeleteRefCredentialClass)⟩
  simp only [IndependentVerificationBoundaryV2.create, bind_eq_ok, raiseIf_eq_ok, not_not,
    requireText_eq_ok]
  exact ⟨(), rfl, (), rfl, (), rfl, (), rfl, "r1", ⟨rfl, by decide⟩, built⟩

theorem boundary_built
    (apart : (verifierIdentity sha256).verifierId ≠ (runnerIdentity sha256).runnerId) :
    IndependentVerificationBoundaryV2.contract.Built sha256.hexdigest (boundary sha256) :=
  (IndependentVerificationBoundaryV2.of_create (boundary_created sha256 apart)).1

/-- The policy of the verifier's credential, without its digest. -/
def policyDraft : VerifierCredentialPolicy where
  credentialClass := "github.read/verifier"
  provider := githubProvider
  audience := githubApiAudience
  enabledEnvironments := ["staging"]
  accessMode := readOnlyAccessMode
  providerMutationAllowed := .bool false
  maxTtlSeconds := 60
  policyRevision := "r1"
  policyDigest := ""

def policy : VerifierCredentialPolicy :=
  { policyDraft with policyDigest := digestOf sha256.hexdigest policyDraft.claims }

theorem policy_checked : (policy sha256).postInit sha256.hexdigest = .ok () := by
  simp only [VerifierCredentialPolicy.postInit, bind_eq_ok, requireTextFields_eq_ok,
    requireDigestFields_eq_ok, raiseIf_eq_ok, not_not]
  have enabled : ¬(["staging"] = [] ∨ ["staging"] ≠ sortedNames ["staging"].dedup ∨
      ∃ environment ∈ ["staging"], environment ∉ validEnvironments) := by decide
  refine ⟨(), ?texts, (), enabled, (), rfl, (), rfl, (),
    (by decide : (1 : Int) ≤ 60 ∧ (60 : Int) ≤ 3600), (), ?digests, rfl⟩
  case texts =>
    simp only [List.forall_mem_cons]
    exact ⟨(by decide : ValidText "github.read/verifier"), (by decide : ValidText githubProvider),
      (by decide : ValidText githubApiAudience), (by decide : ValidText "r1"),
      List.forall_mem_nil _⟩
  case digests =>
    simp only [List.forall_mem_cons]
    exact ⟨sha256.isDigest _, List.forall_mem_nil _⟩

/-- A decision of one minute, without its digest. -/
def decisionDraft : VerifierCredentialDecisionV2 where
  decisionId := VerifierCredentialDecisionV2.identity sha256.hexdigest
    (verifierIdentity sha256).verifierId (boundary sha256).boundaryDigest
    (policy sha256).policyDigest sampleTime.isoformat minuteLater.isoformat
  verifierId := (verifierIdentity sha256).verifierId
  verifierIdentityDigest := (verifierIdentity sha256).identityDigest
  verificationBoundaryDigest := (boundary sha256).boundaryDigest
  runnerObservationDigest := (runner sha256).observationDigest
  targetDigest := sha256.someDigest
  executionId := "exec_1"
  executionEpoch := 1
  credentialClass := "github.read/verifier"
  provider := githubProvider
  audience := githubApiAudience
  environment := stagingEnvironment
  accessMode := readOnlyAccessMode
  providerMutationAllowed := .bool false
  validFrom := sampleTime.isoformat
  expiresAt := minuteLater.isoformat
  policyDigest := (policy sha256).policyDigest
  decisionRevision := "r1"
  decisionDigest := ""

def decision : VerifierCredentialDecisionV2 :=
  sha256.finish VerifierCredentialDecisionV2.contract (decisionDraft sha256)

theorem decision_created : VerifierCredentialDecisionV2.create sha256.hexdigest
    (verifierIdentity sha256) (boundary sha256) (policy sha256) sampleTime.isoformat
    minuteLater.isoformat "r1" = .ok (decision sha256) := by
  have digest : ValidText sha256.someDigest ∧ IsDigest sha256.someDigest := sha256.passes _
  have own (text : String) := sha256.passes text
  have start (field : String) : requireTimestamp (.str sampleTime.isoformat) field =
      .ok sampleTime := requireTimestamp_eq_ok.mpr ⟨rfl, validText_sampleTime⟩
  have stop (field : String) : requireTimestamp (.str minuteLater.isoformat) field =
      .ok minuteLater := requireTimestamp_eq_ok.mpr ⟨rfl, validText_minuteLater⟩
  have built : VerifierCredentialDecisionV2.contract.create sha256.hexdigest
      (decisionDraft sha256) = .ok (decision sha256) := by
    refine Contract.create_of_holds VerifierCredentialDecisionV2.lawful _
      (decision sha256).decisionDigest rfl (fun self reads => ?_) ?_
    · simp only [VerifierCredentialDecisionV2.contract, Contract.fieldsWith, Contract.claimFields,
        VerifierCredentialDecisionV2.claims, decisionDraft, List.cons_append, List.nil_append,
        List.forall_mem_cons] at reads
      simp only [VerifierCredentialDecisionV2.contract, requireTexts, requireDigests,
        uncheckedAttribute, List.map_cons, List.map_nil, List.cons_append, List.nil_append,
        List.forall_mem_cons, AttributeCheck.Holds, Attributes.text, Attributes.int, Json.text?,
        reads, Option.getD_some, true_and]
      exact ⟨own _, own _, own _, own _, own _, digest, own _, own _, by decide, by decide,
        by decide, by decide, by decide, by decide, by decide, Int.le_refl 1,
        ⟨validText_sampleTime, sampleTime, rfl⟩, ⟨validText_minuteLater, minuteLater, rfl⟩,
        List.forall_mem_nil _⟩
    · simp only [VerifierCredentialDecisionV2.contract, bind_eq_ok, raiseIf_eq_ok]
      exact ⟨sampleTime, start _, minuteLater, stop _, (), by decide, (), fun other => other rfl,
        fun other => other rfl⟩
  simp only [VerifierCredentialDecisionV2.create, bind_eq_ok, raiseIf_eq_ok, not_not,
    requireText_eq_ok]
  have lifetime : ¬(minuteLater ≤ sampleTime ∨
      (minuteLater.milliseconds : Int) - sampleTime.milliseconds > 60 * 1000) := by decide
  exact ⟨sampleTime, start _, minuteLater, stop _, (), lifetime, (), rfl, (), rfl, (), rfl, (),
    rfl, (), List.mem_cons_self, (), fun other => other.elim (· rfl) (· rfl), "r1",
    ⟨rfl, by decide⟩, built⟩

/-- What the verifier found a minute after its decision had ended, without its digest. -/
def verifierDraftObservation : VerifierGitHubRefAbsenceObservation where
  repository := "acme/one"
  ref := "refs/heads/main"
  targetDigest := sha256.someDigest
  provider := githubProvider
  providerInstanceId := "verifier_1"
  verifierId := (verifierIdentity sha256).verifierId
  verifierIdentityDigest := (verifierIdentity sha256).identityDigest
  verificationBoundaryDigest := (boundary sha256).boundaryDigest
  verifierCredentialDecisionDigest := (decision sha256).decisionDigest
  runnerObservationDigest := (runner sha256).observationDigest
  executionId := "exec_1"
  executionEpoch := 1
  sourceIdentity := "github"
  httpStatus := .int httpNotFound
  presence := absent
  observedAt := twoMinutesLater.isoformat
  observationRevision := "r1"
  observationDigest := ""

/-- What the verifier found a minute after its decision had ended. -/
def verifier : VerifierGitHubRefAbsenceObservation :=
  sha256.finish VerifierGitHubRefAbsenceObservation.contract (verifierDraftObservation sha256)

theorem verifier_created : VerifierGitHubRefAbsenceObservation.create sha256.hexdigest
    (runner sha256) (verifierIdentity sha256) (boundary sha256) (decision sha256) "github"
    twoMinutesLater.isoformat "r1" = .ok (verifier sha256) := by
  have digest : ValidText sha256.someDigest ∧ IsDigest sha256.someDigest := sha256.passes _
  have own (text : String) := sha256.passes text
  have built : VerifierGitHubRefAbsenceObservation.contract.create sha256.hexdigest
      (verifierDraftObservation sha256) = .ok (verifier sha256) := by
    refine Contract.create_of_holds VerifierGitHubRefAbsenceObservation.lawful _
      (verifier sha256).observationDigest rfl (fun self reads => ?_) rfl
    simp only [VerifierGitHubRefAbsenceObservation.contract, Contract.fieldsWith,
      Contract.claimFields, VerifierGitHubRefAbsenceObservation.claims, verifierDraftObservation,
      List.cons_append, List.nil_append, List.forall_mem_cons] at reads
    simp only [VerifierGitHubRefAbsenceObservation.contract, requireTexts, requireDigests,
      List.map_cons, List.map_nil, List.cons_append, List.nil_append, List.forall_mem_cons,
      AttributeCheck.Holds, Attributes.text, Attributes.int, Json.text?, reads, Option.getD_some,
      true_and]
    exact ⟨digest, own _, own _, own _, own _, own _, own _, by decide, by decide, by decide,
      by decide, by decide, by decide, by decide, by decide,
      ⟨validText_twoMinutesLater, twoMinutesLater, rfl⟩, Int.le_refl 1, rfl, List.forall_mem_nil _⟩
  simp only [VerifierGitHubRefAbsenceObservation.create, bind_eq_ok, raiseIf_eq_ok, not_not,
    requireTextFields_eq_ok, requireTimestamp_eq_ok]
  refine ⟨(), rfl, (), rfl, (), rfl, sampleTime, ⟨rfl, validText_sampleTime⟩, twoMinutesLater,
    ⟨rfl, validText_twoMinutesLater⟩, (), by decide, (), ?_, built⟩
  simp only [List.forall_mem_cons]
  exact ⟨by decide, by decide, List.forall_mem_nil _⟩

/-- The evidence: the verifier read one minute after its decision had ended. -/
def evidence
    (apart : (verifierIdentity sha256).verifierId ≠ (runnerIdentity sha256).runnerId) :
    AbsenceEvidence sha256.hexdigest where
  runner := runner sha256
  boundary := boundary sha256
  decision := decision sha256
  verifier := verifier sha256
  runnerReading := runnerReading sha256
  boundaryRequest := ⟨verifierIdentity sha256, runnerIdentity sha256, runnerBoundary sha256,
    runner sha256, "r1"⟩
  decisionRequest := ⟨verifierIdentity sha256, boundary sha256, policy sha256,
    sampleTime.isoformat, minuteLater.isoformat, "r1"⟩
  verifierReading := ⟨runner sha256, verifierIdentity sha256, boundary sha256, decision sha256,
    "github", twoMinutesLater.isoformat, "r1"⟩
  ofDecision := rfl
  runnerCreated := runner_created sha256
  boundaryCreated := boundary_created sha256 apart
  decisionCreated := decision_created sha256
  verifierCreated := verifier_created sha256
  runnerIdentities := List.forall_mem_cons.mpr ⟨⟨_, runnerIdentity_created sha256⟩,
    List.forall_mem_singleton.mpr ⟨_, runnerIdentity_created sha256⟩⟩
  runnerBoundaries := List.forall_mem_cons.mpr ⟨runnerBoundary_checked sha256,
    List.forall_mem_singleton.mpr (runnerBoundary_checked sha256)⟩
  observations := List.forall_mem_cons.mpr ⟨runner_built sha256,
    List.forall_mem_singleton.mpr (runner_built sha256)⟩
  verifiers := List.forall_mem_cons.mpr ⟨⟨_, verifierIdentity_created sha256⟩,
    List.forall_mem_cons.mpr ⟨⟨_, verifierIdentity_created sha256⟩,
      List.forall_mem_singleton.mpr ⟨_, verifierIdentity_created sha256⟩⟩⟩
  boundaries := List.forall_mem_cons.mpr ⟨boundary_built sha256 apart,
    List.forall_mem_singleton.mpr (boundary_built sha256 apart)⟩
  policyChecked := policy_checked sha256

theorem state_valid : (absentStateDraft (verifier sha256) (boundary sha256) "r1").Valid where
  texts := by
    simp only [ObservedPostState.textFields, List.forall_mem_cons]
    exact ⟨(by decide : ValidText "exec_1"), (by decide : ValidText gitRefStateKind),
      (by decide : ValidText githubProvider), (by decide : ValidText "verifier_1"),
      (by decide : ValidText "github"), (by decide : ValidText "r1"), List.forall_mem_nil _⟩
  digests := by
    simp only [ObservedPostState.digestFields, List.forall_mem_cons]
    exact ⟨sha256.isDigest _, sha256.isDigest _, sha256.isDigest _, sha256.isDigest _,
      sha256.isDigest _, List.forall_mem_nil _⟩
  epoch := Int.le_refl 1
  nonempty := List.cons_ne_nil _ _
  claims := by
    simp only [absentStateDraft, List.forall_mem_cons]
    exact ⟨(by decide : ValidText "repository" ∧ ValidText "acme/one"),
      (by decide : ValidText "ref" ∧ ValidText "refs/heads/main"), by decide, by decide,
      List.forall_mem_nil _⟩
  distinct := (by decide : ["repository", "ref", "presence", "http_status"].Nodup)
  observedAt := ⟨twoMinutesLater, rfl, validText_twoMinutesLater⟩

def state : ObservedPostState :=
  (absentStateDraft (verifier sha256) (boundary sha256) "r1").sealed sha256.hexdigest

def strength : VerificationStrength :=
  VerificationStrength.ofReadback sha256.hexdigest (boundary sha256).boundaryDigest
    (verifier sha256).observationDigest "r1"

def resultDraft : VerificationResult :=
  absenceResultDraft (runner sha256) (verifier sha256) (boundary sha256) (state sha256)
    (strength sha256) "r1"

def result : VerificationResult :=
  sha256.finish VerificationResult.contract (resultDraft sha256)

theorem result_created : VerificationResult.contract.create sha256.hexdigest
    (resultDraft sha256) = .ok (result sha256) := by
  have digest : ValidText sha256.someDigest ∧ IsDigest sha256.someDigest := sha256.passes _
  have own (text : String) := sha256.passes text
  refine Contract.create_of_holds VerificationResult.lawful _ (result sha256).resultDigest rfl
    (fun self reads => ?_) ?_
  · simp only [VerificationResult.contract, Contract.fieldsWith, Contract.claimFields,
      VerificationResult.claims, resultDraft, absenceResultDraft, List.cons_append,
      List.nil_append, List.forall_mem_cons] at reads
    simp only [VerificationResult.contract, requireTexts, requireDigests, List.map_cons,
      List.map_nil, List.cons_append, List.nil_append, List.forall_mem_cons, AttributeCheck.Holds,
      Attributes.text, Attributes.int, Json.text?, reads, Option.getD_some, true_and]
    exact ⟨(by decide : ValidText "exec_1"), (by decide : ValidText independentProviderReadback),
      by decide, by decide, by decide, digest, own _, own _, own _, own _, own _, own _, own _,
      own _, Int.le_refl 1, ⟨validText_twoMinutesLater, twoMinutesLater, rfl⟩, rfl,
      List.mem_cons_self, List.mem_cons_self, List.forall_mem_nil _⟩
  · simp only [VerificationResult.contract, bind_eq_ok, raiseIf_eq_ok]
    exact ⟨(), fun other => other.2 rfl, fun other =>
      absurd other.1 (by decide : VoodooOne.verified ≠ notVerified)⟩

theorem evidence_verified
    (apart : (verifierIdentity sha256).verifierId ≠ (runnerIdentity sha256).runnerId) :
    (evidence sha256 apart).verify ⟨"r1", "r1", "r1"⟩ =
      .ok (state sha256, strength sha256, result sha256) := by
  have revision (field : String) : requireText (.str "r1") field = .ok "r1" :=
    requireText_eq_ok.mpr ⟨rfl, by decide⟩
  have found : ObservedPostState.create sha256.hexdigest
      (absentStateDraft (verifier sha256) (boundary sha256) "r1") = .ok (state sha256) :=
    (ObservedPostState.create_eq_ok sha256).mpr ⟨state_valid sha256, rfl⟩
  have strong : VerificationStrength.create sha256.hexdigest (boundary sha256).boundaryDigest
      (verifier sha256).observationDigest "r1" = .ok (strength sha256) :=
    VerificationStrength.create_readback (sha256.isDigest _) (sha256.isDigest _) (by decide)
  simp only [AbsenceEvidence.verify, verifyGithubRefAbsence, bind_eq_ok, raiseIf_eq_ok, not_or,
    not_not, pure_eq_ok]
  exact ⟨(), rfl, (), rfl, (), rfl, (), ⟨rfl, rfl, rfl⟩, (), ⟨rfl, rfl⟩, _, revision _, _, found, _,
    revision _, _, strong, _, revision _, _, result_created sha256, rfl⟩

theorem late (apart : (verifierIdentity sha256).verifierId ≠ (runnerIdentity sha256).runnerId) :
    ¬(evidence sha256 apart).Independent := by
  intro independent
  obtain ⟨start, time, stop, -, read, ends, -, before⟩ := independent.window
  have readAt : time = twoMinutesLater := (Instant.isoformat_injective read).symm
  have endsAt : stop = minuteLater := (Instant.isoformat_injective ends).symm
  rw [readAt, endsAt] at before
  exact absurd before (by decide)

/-- The canonical text of the runner's logical identity. -/
def runnerText : String :=
  canonicalJson (.object [("identity_type", .str "runner-logical-identity/v1"),
    ("runner_class", .str "runner"), ("provider", .str githubProvider),
    ("provider_instance_id", .str "runner_1"), ("environment", .str "staging")])

/-- The canonical text of the verifier's logical identity. -/
def verifierText : String :=
  canonicalJson (.object [("identity_type", .str "verifier-logical-identity/v1"),
    ("verifier_class", .str "verifier"), ("provider", .str githubProvider),
    ("provider_instance_id", .str "verifier_1"), ("environment", .str "staging"),
    ("credential_class", .str "github.read/verifier")])

theorem verifierText_ne : verifierText ≠ runnerText := by
  have text (value : String) : (Json.str value).WellFormed default := .str value
  have named : "verifier_class" ∈ ["identity_type", "verifier_class", "provider",
    "provider_instance_id", "environment", "credential_class"] := by decide
  refine @canonicalJson_ne_of_key default _ _ _ (by decide) (by decide) ?_ ?_ named (by decide)
  · simp only [List.forall_mem_cons, text, true_and]
    exact List.forall_mem_nil _
  · simp only [List.forall_mem_cons, text, true_and]
    exact List.forall_mem_nil _

theorem separating_self (special : String) :
    (separating special).hexdigest special = repeatedDigit '1' :=
  congrArg repeatedDigit (if_pos rfl)

theorem separating_other {special text : String} (other : text ≠ special) :
    (separating special).hexdigest text = repeatedDigit '0' :=
  congrArg repeatedDigit (if_neg other)

theorem apart : (verifierIdentity (separating runnerText)).verifierId ≠
    (runnerIdentity (separating runnerText)).runnerId := by
  intro same
  have digits : repeatedDigit '0' = repeatedDigit '1' :=
    calc
      repeatedDigit '0' = (separating runnerText).hexdigest verifierText :=
        (separating_other verifierText_ne).symm
      _ = (separating runnerText).hexdigest runnerText := same
      _ = repeatedDigit '1' := separating_self runnerText
  exact absurd digits (by decide)

/-- A verification is returned although the verifier read after its decision had ended. -/
theorem not_independent : ∃ evidence : AbsenceEvidence (separating runnerText).hexdigest,
    ¬evidence.Independent ∧ ∃ artifacts, evidence.verify ⟨"r1", "r1", "r1"⟩ = .ok artifacts :=
  ⟨evidence _ apart, late _ apart, _, evidence_verified _ apart⟩

end ExpiredReading

end VoodooOne
