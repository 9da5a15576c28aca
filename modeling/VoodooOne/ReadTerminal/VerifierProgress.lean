import VoodooOne.Foundation.ValidTexts
import VoodooOne.ReadTerminal.Terminal

/-!
# Progress of the verifier

With a boundary to the runner, a verifier gets its decision when its policy admits the lifetime, and
its observation when the decision is in its interval and the provider answers.
-/

namespace VoodooOne

open Calendar

variable {sha256 : Sha256}

theorem requireTimestamp_of_isoformat (instant : Instant) (field : String) :
    requireTimestamp (.str instant.isoformat) field = .ok instant :=
  requireTimestamp_eq_ok.mpr ⟨rfl, validText_isoformat instant⟩

theorem passes_of_isDigest {text : String} (digest : IsDigest text) :
    ValidText text ∧ IsDigest text := ⟨validText_of_isDigest digest, digest⟩

def TrustedClockAuthority.witnessOf (authority : TrustedClockAuthority) (sha256 : Sha256)
    (environment : String) (instant : Instant) : ClockWitness :=
  let draft : ClockWitness := ⟨authority.sourceIdentity, authority.authorityRevision, environment,
    instant.isoformat, ""⟩
  { draft with witnessDigest := digestOf sha256.hexdigest draft.claimsWithoutDigest }

theorem TrustedClockAuthority.witness_of_aware {authority : TrustedClockAuthority}
    (constructed : authority.Constructed) {environment : String}
    (allowed : environment ∈ authority.allowedEnvironments) (instant : Instant) :
    authority.witness sha256.hexdigest environment (.aware instant) =
      .ok (authority.witnessOf sha256 environment instant) := by
  obtain ⟨source, revision, -, valid⟩ := constructed
  simp only [witness, ClockWitness.create, ClockWitness.postInit, bind_eq_ok, raiseIf_eq_ok,
    requireText_eq_ok, orRaise_eq_ok, not_not, pure_eq_ok]
  exact ⟨(), valid _ allowed, (), allowed, (), ⟨_, ⟨rfl, source⟩, _, ⟨rfl, revision⟩, (),
    valid _ allowed, instant, Instant.ofIsoformat?_eq_some.mpr rfl, (), sha256.isDigest _, rfl⟩,
    rfl⟩

namespace VerifierRuntimeProfile

def identityOf (profile : VerifierRuntimeProfile) (sha256 : Sha256) (environment : String) :
    VerifierIdentity :=
  sha256.finish VerifierIdentity.contract { profile.identityDraft environment with
    verifierId := (profile.identityDraft environment).logicalIdentity sha256.hexdigest }

theorem postInit_eq_ok {profile : VerifierRuntimeProfile} : profile.postInit = .ok () ↔
    (ValidText profile.verifierClass ∧ ValidText profile.provider ∧
      ValidText profile.providerInstanceId ∧ ValidText profile.credentialClass ∧
      ValidText profile.identityRevision ∧ ValidText profile.boundaryRevision ∧
      ValidText profile.decisionRevision) ∧
    (IsDigest profile.rootfsDigest ∧ IsDigest profile.resourceLimitProfileDigest ∧
      IsDigest profile.networkPolicyDigest) ∧
    1 ≤ profile.credentialTtlSeconds ∧ profile.credentialTtlSeconds ≤ 3600 := by
  simp only [postInit, bind_eq_ok, requireTextFields_eq_ok, requireDigestFields_eq_ok,
    raiseIf_eq_ok, not_not, List.forall_mem_cons]
  constructor
  · rintro ⟨_, ⟨verifierClass, provider, instances, credential, identity, boundary, decision, -⟩,
      _, ⟨rootfs, resources, network, -⟩, bounds⟩
    exact ⟨⟨verifierClass, provider, instances, credential, identity, boundary, decision⟩,
      ⟨rootfs, resources, network⟩, bounds⟩
  · rintro ⟨⟨verifierClass, provider, instances, credential, identity, boundary, decision⟩,
      ⟨rootfs, resources, network⟩, bounds⟩
    exact ⟨(), ⟨verifierClass, provider, instances, credential, identity, boundary, decision,
      List.forall_mem_nil _⟩, (), ⟨rootfs, resources, network, List.forall_mem_nil _⟩, bounds⟩

theorem identity_eq {profile : VerifierRuntimeProfile} (checked : profile.postInit = .ok ())
    {environment : String} (valid : environment ∈ validEnvironments) :
    profile.identity sha256.hexdigest environment =
      .ok (profile.identityOf sha256 environment) := by
  obtain ⟨⟨verifierClass, provider, instances, credential, revision, -, -⟩,
    ⟨rootfs, resources, network⟩, -⟩ := postInit_eq_ok.mp checked
  refine Contract.create_of_holds VerifierIdentity.lawful _
    (profile.identityOf sha256 environment).identityDigest rfl (fun self reads => ?_)
    (raiseIf_of_not (not_not.mpr rfl))
  simp only [VerifierIdentity.contract, Contract.fieldsWith, Contract.claimFields,
    VerifierIdentity.claims, identityDraft, List.cons_append, List.nil_append,
    List.forall_mem_cons] at reads
  simp only [VerifierIdentity.contract, requireTexts, requireDigests, List.map_cons, List.map_nil,
    List.cons_append, List.nil_append, List.forall_mem_cons, AttributeCheck.Holds,
    Attributes.text, Json.text?, reads, Option.getD_some, true_and]
  exact ⟨sha256.passes _, passes_of_isDigest rootfs, passes_of_isDigest resources,
    passes_of_isDigest network, sha256.passes _, verifierClass, provider, instances, credential,
    revision, valid, List.forall_mem_nil _⟩

end VerifierRuntimeProfile

theorem Contract.Built.mem_allowed {α : Type} {contract : Contract α} (lawful : contract.Lawful)
    {value : α} (built : contract.Built sha256.hexdigest value) {field text message : String}
    {allowed : List String} (member : .oneOf field allowed message ∈ contract.checks)
    (read : (field, .str text) ∈ contract.claims value ++
      [(contract.digestField, .str (contract.digest value))]) : text ∈ allowed :=
  (held lawful built member read).2

structure VerifierIdentity.Checked (verifier : VerifierIdentity) : Prop where
  verifierId : IsDigest verifier.verifierId
  identityDigest : IsDigest verifier.identityDigest
  verifierClass : ValidText verifier.verifierClass
  provider : ValidText verifier.provider
  providerInstance : ValidText verifier.providerInstanceId
  credentialClass : ValidText verifier.credentialClass

theorem VerifierIdentity.checked_of_built {verifier : VerifierIdentity}
    (built : contract.Built sha256.hexdigest verifier) : verifier.Checked := by
  have texts := built.validTexts lawful
    [("verifier_class", verifier.verifierClass), ("provider", verifier.provider),
      ("provider_instance_id", verifier.providerInstanceId),
      ("credential_class", verifier.credentialClass)]
    (by simp [contract, claims, requireTexts])
  have digests := built.isDigests lawful
    [("verifier_id", verifier.verifierId), ("identity_digest", verifier.identityDigest)]
    (by simp [contract, claims, requireDigests])
  simp only [List.forall_mem_cons] at texts digests
  obtain ⟨verifierClass, provider, instances, credential, -⟩ := texts
  obtain ⟨id, digest, -⟩ := digests
  exact ⟨id, digest, verifierClass, provider, instances, credential⟩

structure RunnerBoundary.Checked (boundary : RunnerBoundary) : Prop where
  identityDigest : IsDigest boundary.runnerIdentityDigest
  boundaryDigest : IsDigest boundary.boundaryDigest
  credentialClass : ValidText boundary.credentialClass
  environment : boundary.environment ∈ validEnvironments

theorem RunnerBoundary.checked_of_built {boundary : RunnerBoundary}
    (built : contract.Built sha256.hexdigest boundary) : boundary.Checked := by
  have texts := built.validTexts lawful [("credential_class", boundary.credentialClass)]
    (by simp [contract, claims, requireTexts])
  have digests := built.isDigests lawful
    [("runner_identity_digest", boundary.runnerIdentityDigest),
      ("boundary_digest", boundary.boundaryDigest)]
    (by simp [contract, claims, requireDigests])
  have oneOf : .oneOf "environment" validEnvironments "environment is invalid" ∈
      contract.checks := by simp [contract]
  simp only [List.forall_mem_cons] at texts digests
  exact ⟨digests.1, digests.2.1, texts.1,
    built.mem_allowed lawful oneOf (by simp [contract, claims])⟩

structure GitHubRefObservation.Checked (observation : GitHubRefObservation) : Prop where
  runnerId : IsDigest observation.runnerId
  targetDigest : IsDigest observation.targetDigest
  observationDigest : IsDigest observation.observationDigest
  providerInstance : ValidText observation.providerInstanceId
  executionId : ValidText observation.executionId
  executionEpoch : 1 ≤ observation.executionEpoch

theorem GitHubRefObservation.checked_of_built {observation : GitHubRefObservation}
    (built : contract.Built sha256.hexdigest observation) : observation.Checked := by
  have texts := built.validTexts lawful
    [("provider_instance_id", observation.providerInstanceId),
      ("execution_id", observation.executionId)] (by simp [contract, claims, requireTexts])
  have digests := built.isDigests lawful
    [("runner_id", observation.runnerId), ("target_digest", observation.targetDigest),
      ("observation_digest", observation.observationDigest)]
    (by simp [contract, claims, requireDigests])
  have integer : .integer "execution_epoch" 1 "execution_epoch must be >= 1" ∈
      contract.checks := by simp [contract]
  simp only [List.forall_mem_cons] at texts digests
  exact ⟨digests.1, digests.2.1, digests.2.2.1, texts.1, texts.2.1,
    built.minimum_le lawful _ integer (by simp [contract, claims])⟩

namespace IndependentVerificationBoundary

variable {verifier : VerifierIdentity} {runnerIdentity : RunnerIdentity}
  {runnerBoundary : RunnerBoundary} {runnerObservation : GitHubRefObservation}
  {boundaryRevision : String}

theorem create_eq (verifierChecked : verifier.Checked) (boundaryChecked : runnerBoundary.Checked)
    (observationChecked : runnerObservation.Checked)
    (bound : assertRunnerEvidenceBound runnerIdentity runnerBoundary runnerObservation = .ok ())
    (environment : verifier.environment = runnerBoundary.environment)
    (apart : Apart verifier runnerIdentity runnerBoundary.credentialClass)
    (revision : ValidText boundaryRevision) :
    create sha256.hexdigest verifier runnerIdentity runnerBoundary runnerObservation
      boundaryRevision = .ok (sha256.finish contract
        (draft verifier runnerIdentity runnerBoundary runnerObservation boundaryRevision)) := by
  have boundParts := bound
  simp only [assertRunnerEvidenceBound, bind_eq_ok, raiseIf_eq_ok, not_not] at boundParts
  obtain ⟨_, -, _, ofIdentity, _, -, _, sameRunner, _, -, _, sameInstance, -⟩ := boundParts
  simp only [create, bind_eq_ok, requireTextFields_eq_ok, raiseIf_eq_ok, not_not,
    List.forall_mem_singleton]
  refine ⟨(), revision, (), bound, (), environment, (), apart.id, (), apart.digest, (),
    apart.providerInstance, (), apart.credential, Contract.create_of_holds lawful _ _ rfl
      (fun self reads => ?_) ?_⟩
  · simp only [contract, Contract.fieldsWith, Contract.claimFields, claims, draft,
      List.cons_append, List.nil_append, List.forall_mem_cons] at reads
    simp only [contract, requireTexts, requireDigests, List.map_cons, List.map_nil,
      List.cons_append, List.nil_append, List.forall_mem_cons, AttributeCheck.Holds,
      Attributes.text, Attributes.int, Json.text?, reads, Option.getD_some, true_and]
    exact ⟨passes_of_isDigest verifierChecked.verifierId,
      passes_of_isDigest verifierChecked.identityDigest,
      sameRunner ▸ passes_of_isDigest observationChecked.runnerId,
      ofIdentity ▸ passes_of_isDigest boundaryChecked.identityDigest,
      passes_of_isDigest boundaryChecked.boundaryDigest,
      passes_of_isDigest observationChecked.targetDigest,
      passes_of_isDigest observationChecked.observationDigest, sha256.passes _,
      verifierChecked.verifierClass, verifierChecked.provider, verifierChecked.providerInstance,
      verifierChecked.credentialClass, sameInstance ▸ observationChecked.providerInstance,
      boundaryChecked.credentialClass, observationChecked.executionId, revision,
      boundaryChecked.environment, rfl, observationChecked.executionEpoch,
      raiseIf_of_not (not_not.mpr rfl), List.forall_mem_nil _⟩
  · simp only [contract, draft, bind_eq_ok, raiseIf_eq_ok]
    exact ⟨(), apart.id, (), apart.providerInstance, apart.credential⟩

structure Checked (boundary : IndependentVerificationBoundary) : Prop where
  boundaryDigest : IsDigest boundary.boundaryDigest
  observationDigest : IsDigest boundary.runnerObservationDigest
  targetDigest : IsDigest boundary.targetDigest
  executionId : ValidText boundary.executionId
  executionEpoch : 1 ≤ boundary.executionEpoch
  environment : boundary.environment ∈ validEnvironments
  apart : boundary.verifierCredentialClass ≠ boundary.runnerCredentialClass

theorem checked_of_built {boundary : IndependentVerificationBoundary}
    (built : contract.Built sha256.hexdigest boundary) : boundary.Checked := by
  have digests := built.isDigests lawful
    [("boundary_digest", boundary.boundaryDigest),
      ("runner_observation_digest", boundary.runnerObservationDigest),
      ("target_digest", boundary.targetDigest)]
    (by simp [contract, claims, requireDigests])
  have texts := built.validTexts lawful [("execution_id", boundary.executionId)]
    (by simp [contract, claims, requireTexts])
  have integer : .integer "execution_epoch" 1 "execution_epoch must be >= 1" ∈
      contract.checks := by simp [contract]
  have oneOf : .oneOf "environment" validEnvironments "environment is invalid" ∈
      contract.checks := by simp [contract]
  have checked := built.checked
  simp only [contract, bind_eq_ok, raiseIf_eq_ok] at checked
  obtain ⟨_, -, _, -, apart⟩ := checked
  simp only [List.forall_mem_cons] at texts digests
  exact ⟨digests.1, digests.2.1, digests.2.2.1, texts.1,
    built.minimum_le lawful _ integer (by simp [contract, claims]),
    built.mem_allowed lawful oneOf (by simp [contract, claims]), apart⟩

structure OfVerifier (boundary : IndependentVerificationBoundary) (verifier : VerifierIdentity) :
    Prop where
  verifierId : verifier.verifierId = boundary.verifierId
  identityDigest : verifier.identityDigest = boundary.verifierIdentityDigest
  verifierClass : verifier.verifierClass = boundary.verifierClass
  provider : verifier.provider = boundary.verifierProvider
  providerInstance : verifier.providerInstanceId = boundary.verifierProviderInstanceId
  credentialClass : verifier.credentialClass = boundary.verifierCredentialClass
  environment : verifier.environment = boundary.environment
  mutation : boundary.providerMutationAllowed = .bool false

end IndependentVerificationBoundary

namespace VerifierCredentialPolicy

structure Checked (policy : VerifierCredentialPolicy) : Prop where
  credentialClass : ValidText policy.credentialClass
  provider : ValidText policy.provider
  audience : ValidText policy.audience
  revision : ValidText policy.policyRevision
  digest : IsDigest policy.policyDigest

theorem checked_of_postInit {sha256 : String → String} {policy : VerifierCredentialPolicy}
    (passed : policy.postInit sha256 = .ok ()) : policy.Checked := by
  unfold postInit at passed
  simp only [bind_eq_ok, requireTextFields_eq_ok, requireDigestFields_eq_ok,
    List.forall_mem_cons] at passed
  obtain ⟨_, ⟨credential, provider, audience, revision, -⟩, _, -, _, -, _, -, _, -, _, ⟨digest, -⟩,
    -⟩ := passed
  exact ⟨credential, provider, audience, revision, digest⟩

end VerifierCredentialPolicy

namespace VerifierCredentialDecision

variable {verifier : VerifierIdentity} {boundary : IndependentVerificationBoundary}
  {policy : VerifierCredentialPolicy} {start stop : Instant} {decisionRevision : String}

structure Admitted (policy : VerifierCredentialPolicy) (verifier : VerifierIdentity)
    (start stop : Instant) : Prop where
  credentialClass : verifier.credentialClass = policy.credentialClass
  provider : verifier.provider = policy.provider
  environment : verifier.environment ∈ policy.enabledEnvironments
  order : start < stop
  lifetime : (stop.milliseconds : Int) - start.milliseconds ≤ policy.maxTtlSeconds * 1000

theorem create_eq (verifierChecked : verifier.Checked) (boundaryChecked : boundary.Checked)
    (policyChecked : policy.Checked) (ofVerifier : boundary.OfVerifier verifier)
    (admitted : Admitted policy verifier start stop) (revision : ValidText decisionRevision) :
    create sha256.hexdigest verifier boundary policy start.isoformat stop.isoformat
      decisionRevision = .ok (sha256.finish contract (draft sha256.hexdigest verifier boundary
        policy start.isoformat stop.isoformat decisionRevision)) := by
  simp only [create, bind_eq_ok, requireTextFields_eq_ok, raiseIf_eq_ok, not_not, not_or, not_le,
    not_lt, List.forall_mem_singleton]
  refine ⟨(), revision, start, requireTimestamp_of_isoformat _ _, stop,
    requireTimestamp_of_isoformat _ _, (), admitted.order, (), admitted.lifetime, (),
    ofVerifier.verifierId, (), ofVerifier.identityDigest, (), ofVerifier.credentialClass, (),
    admitted.credentialClass, (), ⟨ofVerifier.environment, admitted.environment⟩, (),
    admitted.provider, (), ofVerifier.mutation, (), boundaryChecked.apart,
    Contract.create_of_holds lawful _ _ rfl (fun self reads => ?_) ?_⟩
  · simp only [contract, Contract.fieldsWith, Contract.claimFields, claims, draft,
      List.cons_append, List.nil_append, List.forall_mem_cons] at reads
    simp only [contract, requireTexts, requireDigests, uncheckedAttribute, List.map_cons,
      List.map_nil, List.cons_append, List.nil_append, List.forall_mem_cons, AttributeCheck.Holds,
      Attributes.text, Attributes.int, Json.text?, reads, Option.getD_some, true_and]
    exact ⟨sha256.passes _, passes_of_isDigest verifierChecked.verifierId,
      passes_of_isDigest verifierChecked.identityDigest,
      passes_of_isDigest boundaryChecked.boundaryDigest,
      passes_of_isDigest boundaryChecked.observationDigest,
      passes_of_isDigest boundaryChecked.targetDigest, passes_of_isDigest policyChecked.digest,
      sha256.passes _, boundaryChecked.executionId, policyChecked.credentialClass,
      policyChecked.provider, policyChecked.audience, policyChecked.revision, revision,
      boundaryChecked.environment, boundaryChecked.executionEpoch,
      ⟨validText_isoformat _, start, rfl⟩, ⟨validText_isoformat _, stop, rfl⟩,
      List.forall_mem_nil _⟩
  · simp only [contract, bind_eq_ok, raiseIf_eq_ok, not_le, not_not]
    exact ⟨start, requireTimestamp_of_isoformat _ _, stop, requireTimestamp_of_isoformat _ _, (),
      admitted.order, (), rfl, (), rfl, rfl⟩

def decided (sha256 : Sha256) (verifier : VerifierIdentity)
    (boundary : IndependentVerificationBoundary) (policy : VerifierCredentialPolicy)
    (start stop : Instant) (decisionRevision : String) : VerifierCredentialDecision :=
  sha256.finish contract (draft sha256.hexdigest verifier boundary policy start.isoformat
    stop.isoformat decisionRevision)

theorem assertCurrent_decided {clockWitness : ClockWitness} {now : Instant}
    (environment : clockWitness.environment = boundary.environment)
    (observedAt : clockWitness.observedAt = now.isoformat) (begun : start ≤ now)
    (unended : now < stop) :
    (decided sha256 verifier boundary policy start stop decisionRevision).assertCurrent
      clockWitness = .ok () := by
  simp only [assertCurrent, bind_eq_ok, raiseIf_eq_ok, not_not, not_lt, ge_iff_le, not_le,
    observedAt]
  exact ⟨(), environment, now, requireTimestamp_of_isoformat _ _, start,
    requireTimestamp_of_isoformat _ _, stop, requireTimestamp_of_isoformat _ _, (), begun, unended⟩

end VerifierCredentialDecision

namespace VerifierAccess

def decided (sha256 : Sha256) (verifier : VerifierIdentity)
    (boundary : IndependentVerificationBoundary) (policy : VerifierCredentialPolicy)
    (start stop : Instant) (decisionRevision : String) (target : ExecutionTarget) :
    VerifierAccess where
  verifier
  boundary
  decision := .decided sha256 verifier boundary policy start stop decisionRevision
  target

variable {verifier : VerifierIdentity} {boundary : IndependentVerificationBoundary}
  {policy : VerifierCredentialPolicy} {start stop : Instant} {decisionRevision : String}
  {target : ExecutionTarget}

theorem bound_decided (ofVerifier : boundary.OfVerifier verifier)
    (admitted : VerifierCredentialDecision.Admitted policy verifier start stop)
    (targets : boundary.targetDigest = target.targetDigest) :
    (decided sha256 verifier boundary policy start stop decisionRevision target).assertExactBinding
      = .ok () := by
  simp only [assertExactBinding, bind_eq_ok, raiseIf_eq_ok, not_not, not_or]
  exact ⟨(), ofVerifier.verifierId, (), ofVerifier.identityDigest, (), ofVerifier.verifierClass,
    (), ofVerifier.provider, (), ofVerifier.providerInstance, (), ofVerifier.credentialClass, (),
    ofVerifier.environment, (), rfl, (), rfl, (), rfl, (), rfl, (), ⟨rfl, targets⟩, (), rfl, (),
    rfl, (), admitted.credentialClass.symm, (), admitted.provider.symm, (),
    ofVerifier.environment.symm, (), rfl, (), rfl, ofVerifier.mutation⟩

end VerifierAccess

def Answered (answer : Except Raised Json) (commitSha : String) : Prop :=
  answer = .ok (.str commitSha) ∧ ValidText commitSha ∧ isGitObjectId commitSha = true

namespace VerifierGitHubRefReadHandler

variable {handler : VerifierGitHubRefReadHandler} {verifier : VerifierIdentity}
  {boundary : IndependentVerificationBoundary} {policy : VerifierCredentialPolicy}
  {start stop accessed observed : Instant} {decisionRevision : String} {target : ExecutionTarget}

def observationOf (handler : VerifierGitHubRefReadHandler) (sha256 : Sha256)
    (access : VerifierAccess) (named : String × String) (commitSha : String)
    (accessed observed : Instant) : VerifierGitHubRefObservation :=
  sha256.finish VerifierGitHubRefObservation.contract (.draft named.1 named.2 commitSha access
    (handler.trustedClock.witnessOf sha256 access.verifier.environment accessed)
    (handler.trustedClock.witnessOf sha256 access.verifier.environment observed)
    handler.sourceIdentity handler.observationRevision)

theorem observeRef_eq (verifierChecked : verifier.Checked) (boundaryChecked : boundary.Checked)
    (ofVerifier : boundary.OfVerifier verifier)
    (admitted : VerifierCredentialDecision.Admitted policy verifier start stop)
    (targets : boundary.targetDigest = target.targetDigest) {named : String × String}
    (parsed : target.parseGitRef = .ok named)
    (allowed : verifier.environment ∈ handler.trustedClock.allowedEnvironments)
    (begun : start ≤ accessed) (unended : accessed < stop) {answer : Except Raised Json}
    {commitSha : String} (answered : Answered answer commitSha) :
    handler.observeRef sha256.hexdigest ⟨.aware accessed, answer, .aware observed⟩
        (.decided sha256 verifier boundary policy start stop decisionRevision target) =
      .ok (handler.observationOf sha256
        (.decided sha256 verifier boundary policy start stop decisionRevision target) named
        commitSha accessed observed) := by
  obtain ⟨repositoryValid, refValid⟩ := ExecutionTarget.validTexts_of_parse parsed
  obtain ⟨answer, commitValid, form⟩ := answered
  have texts := handler.texts
  simp only [List.forall_mem_cons] at texts
  obtain ⟨revision, source, -⟩ := texts
  have clock := handler.clockConstructed
  have bound : (VerifierAccess.decided sha256 verifier boundary policy start stop decisionRevision
      target).assertExactBinding = .ok () :=
    VerifierAccess.bound_decided ofVerifier admitted targets
  have read (instant : Instant) : handler.trustedClock.witness sha256.hexdigest
      verifier.environment (.aware instant) =
        .ok (handler.trustedClock.witnessOf sha256 verifier.environment instant) :=
    TrustedClockAuthority.witness_of_aware clock allowed instant
  have current : (VerifierCredentialDecision.decided sha256 verifier boundary policy start stop
      decisionRevision).assertCurrent (handler.trustedClock.witnessOf sha256
        verifier.environment accessed) = .ok () :=
    VerifierCredentialDecision.assertCurrent_decided ofVerifier.environment rfl begun unended
  have commit : requireGitObjectId (.str commitSha) "commit_sha" = .ok commitSha :=
    requireGitObjectId_eq_ok.mpr ⟨rfl, commitValid, form⟩
  simp only [observeRef, VerifierGitHubRefObservation.create, bind_eq_ok, catching_eq_ok,
    requireTextFields_eq_ok, raiseIf_eq_ok, not_not, List.forall_mem_cons]
  refine ⟨(), bound, named, parsed, _, read _, (), current, _, answer, _, commit, _, read _, (),
    bound, (), current, (), rfl, (), ⟨repositoryValid, refValid, List.forall_mem_nil _⟩, _, commit,
    (), ⟨source, revision, List.forall_mem_nil _⟩, Contract.create_of_holds
      VerifierGitHubRefObservation.lawful _ _ rfl (fun self reads => ?_) rfl⟩
  simp only [VerifierGitHubRefObservation.contract, Contract.fieldsWith, Contract.claimFields,
    VerifierGitHubRefObservation.claims, VerifierGitHubRefObservation.draft,
    List.cons_append, List.nil_append, List.forall_mem_cons] at reads
  simp only [VerifierGitHubRefObservation.contract, requireTexts, requireDigests, List.map_cons,
    List.map_nil, List.cons_append, List.nil_append, List.forall_mem_cons, AttributeCheck.Holds,
    Attributes.text, Attributes.int, Json.text?, reads, Option.getD_some, true_and]
  exact ⟨repositoryValid, refValid, commitValid, requireObjectIdForm_str.mpr form,
    targets ▸ passes_of_isDigest boundaryChecked.targetDigest,
    passes_of_isDigest verifierChecked.verifierId,
    passes_of_isDigest verifierChecked.identityDigest,
    passes_of_isDigest boundaryChecked.boundaryDigest, sha256.passes _, sha256.passes _,
    passes_of_isDigest boundaryChecked.observationDigest, sha256.passes _, sha256.passes _,
    sha256.passes _, verifierChecked.provider, verifierChecked.providerInstance,
    boundaryChecked.executionId, source, clock.1, clock.1, revision,
    ⟨validText_isoformat _, accessed, rfl⟩, ⟨validText_isoformat _, observed, rfl⟩,
    boundaryChecked.executionEpoch, List.forall_mem_nil _⟩

end VerifierGitHubRefReadHandler

end VoodooOne
