import VoodooOne.ReadTerminal.Completion

/-!
# A lifetime above the maximum

The constructor of a terminal does not compare the lifetime of the verifier's credential with the
maximum of its policy.  Where the lifetime is above the maximum, no run returns a result, and an
execution that is completed stays without one.
-/

namespace VoodooOne

open Calendar

variable {sha256 : Sha256} {Durable : Type}

namespace CanonicalGitHubReadTerminal

variable {terminal : CanonicalGitHubReadTerminal sha256.hexdigest}

theorem not_returns_of_lifetime
    (above : terminal.verifierPolicy.maxTtlSeconds < terminal.verifierProfile.credentialTtlSeconds)
    (prepared : CanonicalPreparedExecution) (script : RunnerScript sha256.hexdigest Durable)
    (verifier : VerifierScript) : ¬terminal.Returns prepared script verifier := by
  rintro ⟨result, returned⟩
  rw [run] at returned
  cases seen : terminal.observe prepared script with
  | error error =>
      rw [seen] at returned
      cases returned
  | ok observed =>
      cases recorded : script.completion with
      | error error =>
          rw [seen] at returned
          dsimp only at returned
          rw [recorded] at returned
          cases returned
      | ok durable =>
          rw [seen] at returned
          dsimp only at returned
          rw [recorded] at returned
          obtain ⟨_, _, _, -, -, -, evidence⟩ := RunnerEvidence.of_observe seen
          exact absurd (admits_of_verify evidence returned).1.lifetime (not_le.mpr above)

theorem not_accountable_of_lifetime
    (above : terminal.verifierPolicy.maxTtlSeconds < terminal.verifierProfile.credentialTtlSeconds)
    {prepared : CanonicalPreparedExecution} {script : RunnerScript sha256.hexdigest Durable}
    (completes : terminal.Completes prepared script) : ¬terminal.Accountable prepared script := by
  intro accountable
  obtain ⟨⟨verifier, _, _, returns⟩, -⟩ := accountable completes
  exact not_returns_of_lifetime above prepared script verifier returns

end CanonicalGitHubReadTerminal

namespace LongLifetime

variable (sha256 : Sha256)

def definition : CapabilityDefinition :=
  let draft : CapabilityDefinition :=
    { capability := "github.read-ref/v1"
      targetKind := githubRefTargetKind
      binderId := "github-ref"
      handlerId := "github-read-ref"
      effectClass := readOnlyEffectClass
      verificationClass := providerReadVerificationClass
      supportedEnvironments := ["staging"]
      requiredPermissions := [requiredExecutionPermission]
      productionEligible := false
      definitionIdentity := "" }
  { draft with definitionIdentity := digestOf sha256.hexdigest draft.claims }

def capsule : ExecutionCapsule :=
  sha256.finish ExecutionCapsule.contract
    { capabilityDefinitionIdentity := (definition sha256).definitionIdentity
      targetKind := githubRefTargetKind
      handlerId := "github-read-ref"
      handlerDigest := sha256.someDigest
      moduleManifestDigest := sha256.someDigest
      artifactKind := "image"
      artifactDigest := sha256.someDigest
      rootfsDigest := sha256.someDigest
      dependencyLockDigest := sha256.someDigest
      sbomDigest := sha256.someDigest
      networkPolicyDigest := sha256.someDigest
      resourceLimitProfileDigest := sha256.someDigest
      credentialClass := "github.read/runner"
      runnerClass := "reader"
      preconditionEnforcementClass := readThenCompare
      verificationClass := providerReadVerificationClass
      verificationContractIdentity := sha256.someDigest
      capsuleRevision := "r1"
      capsuleDigest := "" }

def capabilities : CapabilityRegistry := ⟨[definition sha256], []⟩

theorem definition_found : (capabilities sha256).definitionByIdentity
    (definition sha256).definitionIdentity = .ok (definition sha256) := by
  have keyed : Table.Keyed (·.definitionIdentity) (capabilities sha256).definitions :=
    List.nodup_singleton _
  simp only [CapabilityRegistry.definitionByIdentity, bind_eq_ok, requireText_eq_ok, orRaise_eq_ok]
  exact ⟨_, ⟨rfl, (sha256.passes _).1⟩, keyed.lookup_of_mem (List.mem_singleton_self _)⟩

def capsules : ExecutionCapsuleRegistry where
  capabilities := capabilities sha256
  capsules := [capsule sha256]
  nonempty := List.cons_ne_nil _ _
  registers := List.forall_mem_singleton.mpr ⟨_, definition_found sha256, rfl, rfl, rfl⟩
  definitions_distinct := List.nodup_singleton _
  digests_distinct := List.nodup_singleton _

theorem capsule_found : (capsules sha256).capsuleForDefinition
    (definition sha256).definitionIdentity = .ok (capsule sha256) := by
  have keyed : Table.Keyed (·.capabilityDefinitionIdentity) (capsules sha256).capsules :=
    List.nodup_singleton _
  simp only [ExecutionCapsuleRegistry.capsuleForDefinition, bind_eq_ok, requireDigest_eq_ok,
    orRaise_eq_ok]
  exact ⟨_, ⟨rfl, sha256.passes _⟩, keyed.lookup_of_mem (List.mem_singleton_self _)⟩

def lease : ExecutionLease :=
  sha256.finish ExecutionLease.contract
    { leaseId := leaseId sha256.hexdigest sha256.someDigest 1
      dispatchId := sha256.someDigest
      admissionId := sha256.someDigest
      admissionDigest := sha256.someDigest
      executionId := "exec_1"
      workspaceId := "ws_1"
      environment := "staging"
      executionCapsuleDigest := (capsule sha256).capsuleDigest
      runnerClass := "reader"
      executionEpoch := 1
      acquiredAt := sampleTime.isoformat
      expiresAt := minuteLater.isoformat
      clockWitnessDigest := sha256.someDigest
      leaseRevision := "r1"
      leaseDigest := "" }

def targetFields : List (String × Json) :=
  [("repository", .str "acme/one"), ("ref", .str "refs/heads/main")]

def target : ExecutionTarget := ⟨githubRefTargetKind, .object targetFields, sha256.someDigest⟩

theorem target_parsed : (target sha256).parseGitRef = .ok ("acme/one", "refs/heads/main") := by
  have distinct : (targetFields.map Prod.fst).Nodup := by decide
  obtain ⟨keys, found, perm⟩ := Json.keys_object targetFields
  have exactly : HasExactly ((target sha256).targetClaims.keys.getD []) ["repository", "ref"] := by
    rw [target, found, Option.getD_some]
    exact ⟨fun name member => perm.mem_iff.mp member, fun name member => perm.mem_iff.mpr member⟩
  have repository : (target sha256).targetClaims.get "repository" = .str "acme/one" :=
    Json.get_object_of_mem distinct (List.mem_cons_self ..)
  have ref : (target sha256).targetClaims.get "ref" = .str "refs/heads/main" :=
    Json.get_object_of_mem distinct (List.mem_cons_of_mem _ (List.mem_cons_self ..))
  simp only [ExecutionTarget.parseGitRef, bind_eq_ok, raiseIf_eq_ok, not_not, catching_eq_ok,
    requireReadRepository_eq_ok, requireReadRef_eq_ok, pure_eq_ok]
  exact ⟨(), rfl, (), exactly, _, ⟨repository, by decide, by decide⟩, _,
    ⟨ref, by decide, "main".toList, by decide, by decide⟩, rfl⟩

structure Prepares (prepared : CanonicalPreparedExecution) : Prop where
  profile : prepared.terminalProfile = readOnlyTerminalProfile
  capability : prepared.capability = (definition sha256).capability
  definition : prepared.capabilityDefinitionIdentity = (definition sha256).definitionIdentity
  capsule : prepared.executionCapsuleDigest = (capsule sha256).capsuleDigest
  environment : prepared.environment = "staging"
  target : prepared.snapshot.executionTarget = target sha256
  targetDigest : prepared.targetDigest = (LongLifetime.target sha256).targetDigest
  lease : prepared.lease = lease sha256

def bootstrapDraft : IsolatedRuntimeBootstrap where
  bootstrapId := ""
  provider := "isolation"
  providerInstanceId := "runner_1"
  runnerClass := "reader"
  environment := "staging"
  rootfsDigest := sha256.someDigest
  resourceLimitProfileDigest := sha256.someDigest
  networkPolicyDigest := sha256.someDigest
  workspaceMountMode := readOnlyMountMode
  networkEgressDefault := denyAllNetworkDefault
  inheritedCredentials := .bool false
  providerMutationAllowed := .bool false
  bootstrapRevision := "r1"
  bootstrapDigest := ""

def bootstrap : IsolatedRuntimeBootstrap :=
  sha256.finish IsolatedRuntimeBootstrap.contract { bootstrapDraft sha256 with
    bootstrapId := (bootstrapDraft sha256).logicalIdentity sha256.hexdigest }

theorem bootstrap_built :
    IsolatedRuntimeBootstrap.contract.Built sha256.hexdigest (bootstrap sha256) := by
  have digest := sha256.passes ""
  have own (text : String) := sha256.passes text
  refine ⟨_, Contract.create_of_holds IsolatedRuntimeBootstrap.lawful { bootstrapDraft sha256 with
    bootstrapId := (bootstrapDraft sha256).logicalIdentity sha256.hexdigest }
    (bootstrap sha256).bootstrapDigest rfl (fun self reads => ?_)
    (raiseIf_of_not (not_not.mpr rfl))⟩
  simp only [IsolatedRuntimeBootstrap.contract, Contract.fieldsWith, Contract.claimFields,
    IsolatedRuntimeBootstrap.claims, bootstrapDraft, List.cons_append, List.nil_append,
    List.forall_mem_cons] at reads
  simp only [IsolatedRuntimeBootstrap.contract, requireTexts, requireDigests, List.map_cons,
    List.map_nil, List.cons_append, List.nil_append, List.forall_mem_cons, AttributeCheck.Holds,
    Attributes.text, Json.text?, reads, Option.getD_some, true_and]
  exact ⟨own _, digest, digest, digest, own _, by decide, by decide, by decide, by decide,
    by decide, rfl, rfl, List.forall_mem_nil _⟩

def adapter : IsolatedRunnerAdapter where
  identityRevision := "r1"
  boundaryRevision := "r1"
  activationRevision := "r1"
  revisions := by
    simp only [List.forall_mem_cons]
    exact ⟨by decide, by decide, by decide, List.forall_mem_nil _⟩

def identity : RunnerIdentity := adapter.identityOf sha256 (bootstrap sha256)

theorem identity_created : RunnerIdentity.create sha256.hexdigest
    (adapter.identityDraft (bootstrap sha256)) = .ok (identity sha256) := by
  have digest := sha256.passes ""
  have own (text : String) := sha256.passes text
  refine Contract.create_of_holds RunnerIdentity.lawful _ (identity sha256).identityDigest rfl
    (fun self reads => ?_) (raiseIf_of_not (not_not.mpr rfl))
  simp only [RunnerIdentity.contract, Contract.fieldsWith, Contract.claimFields,
    RunnerIdentity.claims, IsolatedRunnerAdapter.identityDraft, List.cons_append,
    List.nil_append, List.forall_mem_cons] at reads
  simp only [RunnerIdentity.contract, requireTexts, requireDigests, List.map_cons, List.map_nil,
    List.cons_append, List.nil_append, List.forall_mem_cons, AttributeCheck.Holds,
    Attributes.text, Json.text?, reads, Option.getD_some, true_and]
  exact ⟨own _, digest, digest, digest, own _, (by decide : ValidText "reader"),
    (by decide : ValidText "isolation"), (by decide : ValidText "runner_1"),
    by decide, (by decide : "staging" ∈ validEnvironments),
    List.forall_mem_nil _⟩

def boundaryDraft : RunnerBoundary where
  runnerId := (identity sha256).runnerId
  runnerIdentityDigest := (identity sha256).identityDigest
  leaseId := (lease sha256).leaseId
  leaseDigest := (lease sha256).leaseDigest
  admissionId := sha256.someDigest
  executionId := "exec_1"
  executionEpoch := 1
  executionCapsuleDigest := (capsule sha256).capsuleDigest
  capabilityDefinitionIdentity := (definition sha256).definitionIdentity
  environment := "staging"
  runnerClass := "reader"
  credentialClass := "github.read/runner"
  effectCeiling := readOnlyEffectClass
  networkEgressDefault := denyAllNetworkDefault
  providerMutationAllowed := .bool false
  boundaryRevision := "r1"
  boundaryDigest := ""

def boundary : RunnerBoundary := sha256.finish RunnerBoundary.contract (boundaryDraft sha256)

theorem boundary_created : RunnerBoundary.create sha256.hexdigest (identity sha256)
    (lease sha256) (capsule sha256) (definition sha256) "r1" = .ok (boundary sha256) := by
  have digest := sha256.passes ""
  have own (text : String) := sha256.passes text
  simp only [RunnerBoundary.create, RunnerIdentity.assertBoundToLease, bind_eq_ok, raiseIf_eq_ok,
    not_not, requireText_eq_ok]
  refine ⟨"r1", ⟨rfl, by decide⟩, (), ⟨(), rfl, rfl⟩, (), rfl, (), rfl, (), rfl, (), rfl, (), rfl,
    (), rfl, (), rfl, (), rfl, (), rfl, (), List.mem_singleton_self _,
    Contract.create_of_holds RunnerBoundary.lawful (boundaryDraft sha256)
      (boundary sha256).boundaryDigest rfl (fun self reads => ?_) rfl⟩
  simp only [RunnerBoundary.contract, Contract.fieldsWith, Contract.claimFields,
    RunnerBoundary.claims, boundaryDraft, List.cons_append, List.nil_append,
    List.forall_mem_cons] at reads
  simp only [RunnerBoundary.contract, requireTexts, requireDigests, List.map_cons, List.map_nil,
    List.cons_append, List.nil_append, List.forall_mem_cons, AttributeCheck.Holds,
    Attributes.text, Attributes.int, Json.text?, reads, Option.getD_some, true_and]
  exact ⟨own _, own _, own _, own _, digest, own _, own _, own _, by decide, by decide, by decide,
    by decide, by decide, (by decide : "staging" ∈ validEnvironments), rfl, Int.le_refl 1, rfl,
    List.forall_mem_nil _⟩

/-- The decision of the runner, without its digest. -/
def decisionDraft : CredentialAccessDecision where
  decisionId := boundaryIdentity sha256.hexdigest "credential-access-decision-id/v1"
    (boundary sha256).boundaryDigest (lease sha256).leaseDigest sha256.someDigest
  runnerBoundaryDigest := (boundary sha256).boundaryDigest
  runnerId := (identity sha256).runnerId
  runnerIdentityDigest := (identity sha256).identityDigest
  leaseId := (lease sha256).leaseId
  leaseDigest := (lease sha256).leaseDigest
  executionId := "exec_1"
  executionEpoch := .int 1
  executionCapsuleDigest := (capsule sha256).capsuleDigest
  capabilityDefinitionIdentity := (definition sha256).definitionIdentity
  credentialClass := "github.read/runner"
  provider := githubProvider
  audience := githubApiAudience
  environment := "staging"
  accessMode := .str readOnlyAccessMode
  providerMutationAllowed := .bool false
  validFrom := sampleTime.isoformat
  expiresAt := minuteLater.isoformat
  policyDigest := sha256.someDigest
  policyRevision := "r1"
  decisionRevision := "r1"
  decisionDigest := ""

def decision : CredentialAccessDecision :=
  sha256.finish CredentialAccessDecision.contract (decisionDraft sha256)

theorem decision_built :
    CredentialAccessDecision.contract.Built sha256.hexdigest (decision sha256) := by
  have digest := sha256.passes ""
  have own (text : String) := sha256.passes text
  refine ⟨_, Contract.create_of_holds CredentialAccessDecision.lawful (decisionDraft sha256)
    (decision sha256).decisionDigest rfl (fun self reads => ?_) ?_⟩
  · simp only [CredentialAccessDecision.contract, Contract.fieldsWith, Contract.claimFields,
      CredentialAccessDecision.claims, decisionDraft, List.cons_append, List.nil_append,
      List.forall_mem_cons] at reads
    simp only [CredentialAccessDecision.contract, requireTexts, requireDigests,
      uncheckedAttribute, List.map_cons, List.map_nil, List.cons_append, List.nil_append,
      List.forall_mem_cons, AttributeCheck.Holds, Attributes.text, Json.text?, reads,
      Option.getD_some, true_and]
    exact ⟨own _, own _, own _, own _, own _, own _, own _, own _, digest, own _, by decide,
      by decide, by decide, by decide, by decide, by decide,
      (by decide : "staging" ∈ validEnvironments), rfl, ⟨validText_isoformat _, sampleTime, rfl⟩,
      ⟨validText_isoformat _, minuteLater, rfl⟩, List.forall_mem_nil _⟩
  · simp only [CredentialAccessDecision.contract, bind_eq_ok, raiseIf_eq_ok, not_not]
    exact ⟨sampleTime, requireTimestamp_of_isoformat _ _, minuteLater,
      requireTimestamp_of_isoformat _ _, (), by decide, (), rfl, (), rfl, rfl⟩

def runtime : PreparedIsolatedRuntime where
  bootstrap := bootstrap sha256
  identity := identity sha256
  boundary := boundary sha256
  decision := decision sha256
  lease := lease sha256

theorem runtime_bound : (runtime sha256).assertRuntimeBinding = .ok () := by
  simp only [PreparedIsolatedRuntime.assertRuntimeBinding, bind_eq_ok, raiseIf_eq_ok, not_not,
    not_or]
  exact ⟨(), rfl, (), rfl, (), rfl, (), rfl, (), rfl, (), rfl, (), rfl, (), rfl, (), rfl, (),
    ⟨rfl, rfl⟩, (), rfl, (), rfl, (), rfl, (), ⟨rfl, rfl⟩, (), rfl, (), rfl, (), rfl, (), rfl, rfl⟩

def activation : ReadOnlyRuntimeActivation :=
  sha256.finish ReadOnlyRuntimeActivation.contract (.draft (runtime sha256) "r1")

theorem activation_created : ReadOnlyRuntimeActivation.create sha256.hexdigest (runtime sha256)
    "r1" = .ok (activation sha256) := by
  have own (text : String) := sha256.passes text
  rw [ReadOnlyRuntimeActivation.create, bind_eq_ok]
  refine ⟨(), runtime_bound sha256, Contract.create_of_holds ReadOnlyRuntimeActivation.lawful _
    (activation sha256).activationDigest rfl (fun self reads => ?_) rfl⟩
  simp only [ReadOnlyRuntimeActivation.contract, Contract.fieldsWith, Contract.claimFields,
    ReadOnlyRuntimeActivation.claims, ReadOnlyRuntimeActivation.draft, List.cons_append,
    List.nil_append, List.forall_mem_cons] at reads
  simp only [ReadOnlyRuntimeActivation.contract, requireTexts, requireDigests, List.map_cons,
    List.map_nil, List.cons_append, List.nil_append, List.forall_mem_cons, AttributeCheck.Holds,
    Attributes.text, Attributes.int, Json.text?, reads, Option.getD_some, true_and]
  exact ⟨own _, own _, own _, own _, own _, own _, own _, own _, own _, own _,
    (by decide : ValidText "isolation"), (by decide : ValidText "runner_1"),
    (by decide : ValidText "exec_1"), (by decide : ValidText "r1"), rfl, Int.le_refl 1, rfl,
    List.forall_mem_nil _⟩

def answers : RuntimeAnswers sha256.hexdigest where
  bootstrap := .ok (bootstrap sha256)
  authorization := .ok (decision sha256)
  current := .ok ()
  activation := .ok (activation sha256)
  bootstrapBuilt _ same := Except.ok.inj same ▸ bootstrap_built sha256
  authorizationBuilt _ same := Except.ok.inj same ▸ decision_built sha256

theorem runtime_prepared : adapter.prepare (answers sha256) (lease sha256) (capsule sha256)
    (definition sha256) = .ok (runtime sha256) := by
  simp only [IsolatedRunnerAdapter.prepare, IsolatedRunnerAdapter.assertBootstrapBound, bind_eq_ok,
    raiseIf_eq_ok, not_not, pure_eq_ok]
  exact ⟨(), rfl, (), rfl, (), rfl, bootstrap sha256, rfl, (), ⟨(), rfl, (), rfl, (), rfl, (), rfl,
    (), rfl, (), rfl, (), rfl, (), rfl, rfl⟩, identity sha256, identity_created sha256,
    boundary sha256, boundary_created sha256, decision sha256, rfl, (), runtime_bound sha256, rfl⟩

theorem runtime_activated : adapter.activate (answers sha256) (runtime sha256) =
    .ok (activation sha256) := by
  simp only [IsolatedRunnerAdapter.activate, bind_eq_ok, raiseIf_eq_ok, not_not, pure_eq_ok]
  exact ⟨(), runtime_bound sha256, (), rfl, activation sha256, rfl, activation sha256,
    activation_created sha256, (), rfl, rfl⟩

def clock : TrustedClockAuthority := ⟨"clock", "r1", ["staging"]⟩

theorem clock_constructed : clock.Constructed :=
  ⟨by decide, by decide, List.cons_ne_nil _ _, List.forall_mem_singleton.mpr (by decide)⟩

theorem readerTexts : ∀ named ∈ [("observation_revision", "r1"), ("source_identity", "github")],
    ValidText named.2 := by
  simp only [List.forall_mem_cons]
  exact ⟨by decide, by decide, List.forall_mem_nil _⟩

def handler : GitHubRefReadHandler := ⟨clock, "github", "r1", clock_constructed, readerTexts⟩

def reading : ReadAnswers := ⟨.ok (), .ok (.str sha256.someDigest), .aware sampleTime⟩

def observation : GitHubRefObservation :=
  sha256.finish GitHubRefObservation.contract (.draft "acme/one" "refs/heads/main"
    sha256.someDigest (target sha256) (activation sha256) "github"
    (clock.witnessOf sha256 "staging" sampleTime) "r1")

theorem observation_read : handler.observeRef sha256.hexdigest (reading sha256) (runtime sha256)
    (activation sha256) (target sha256) = .ok (observation sha256) := by
  have digest := sha256.passes ""
  have own (text : String) := sha256.passes text
  obtain ⟨-, commitValid, form⟩ := CanonicalGitHubReadTerminal.answered_of_isDigest digest.2
  have bound : (runtime sha256).assertActivationBound (activation sha256) = .ok () := by
    simp only [PreparedIsolatedRuntime.assertActivationBound, bind_eq_ok, raiseIf_eq_ok, not_not]
    exact ⟨(), rfl, (), rfl, (), rfl, (), rfl, (), rfl, (), rfl, (), rfl, (), rfl, (), rfl, (), rfl,
      (), rfl, (), rfl, (), rfl, (), rfl, rfl⟩
  have repository : requireReadRepository (.str "acme/one") = .ok "acme/one" :=
    requireReadRepository_eq_ok.mpr ⟨rfl, by decide, by decide⟩
  have ref : requireReadRef (.str "refs/heads/main") = .ok "refs/heads/main" :=
    requireReadRef_eq_ok.mpr ⟨rfl, by decide, "main".toList, by decide, by decide⟩
  have commit : requireGitObjectId (.str sha256.someDigest) "commit_sha" = .ok sha256.someDigest :=
    requireGitObjectId_eq_ok.mpr ⟨rfl, commitValid, form⟩
  have texts : ∀ named ∈ [("source_identity", "github"), ("observation_revision", "r1")],
      ValidText named.2 := by
    simp only [List.forall_mem_cons]
    exact ⟨by decide, by decide, List.forall_mem_nil _⟩
  have witnessed : clock.witness sha256.hexdigest "staging" (.aware sampleTime) =
      .ok (clock.witnessOf sha256 "staging" sampleTime) :=
    TrustedClockAuthority.witness_of_aware clock_constructed (List.mem_singleton_self _) _
  simp only [GitHubRefReadHandler.observeRef, GitHubRefObservation.create, bind_eq_ok,
    requireTextFields_eq_ok, raiseIf_eq_ok, not_not]
  refine ⟨(), bound, _, target_parsed sha256, (), rfl, _, rfl, _, commit, _, witnessed, (), bound,
    _, repository, _, ref, _, commit, (), texts, (), rfl, Contract.create_of_holds
      GitHubRefObservation.lawful _ (observation sha256).observationDigest rfl
      (fun self reads => ?_) rfl⟩
  simp only [GitHubRefObservation.contract, Contract.fieldsWith, Contract.claimFields,
    GitHubRefObservation.claims, GitHubRefObservation.draft, List.cons_append, List.nil_append,
    List.forall_mem_cons] at reads
  simp only [GitHubRefObservation.contract, requireTexts, requireDigests, List.map_cons,
    List.map_nil, List.cons_append, List.nil_append, List.forall_mem_cons, AttributeCheck.Holds,
    Attributes.text, Attributes.int, Json.text?, reads, Option.getD_some, true_and]
  exact ⟨by decide, requireRepositoryForm_str.mpr (by decide), by decide,
    requireRefForm_str.mpr ⟨"main".toList, by decide, by decide⟩, commitValid,
    requireObjectIdForm_str.mpr form, digest, own _, own _, own _, own _, own _, own _, own _,
    own _, own _, own _, (by decide : ValidText "isolation"), (by decide : ValidText "runner_1"),
    (by decide : ValidText "exec_1"), (by decide : ValidText "github"),
    (by decide : ValidText "clock"), by decide, ⟨validText_isoformat _, sampleTime, rfl⟩, rfl,
    Int.le_refl 1, List.forall_mem_nil _⟩

/-- The profile of the verifier: its credential is to last an hour. -/
def profile : VerifierRuntimeProfile where
  verifierClass := "verifier"
  provider := githubProvider
  providerInstanceId := "verifier_1"
  credentialClass := "github.read/verifier"
  rootfsDigest := sha256.someDigest
  resourceLimitProfileDigest := sha256.someDigest
  networkPolicyDigest := sha256.someDigest
  identityRevision := "r1"
  boundaryRevision := "r1"
  decisionRevision := "r1"
  credentialTtlSeconds := 3600

theorem profile_checked : (profile sha256).postInit = .ok () :=
  VerifierRuntimeProfile.postInit_eq_ok.mpr
    ⟨⟨(by decide : ValidText "verifier"), (by decide : ValidText githubProvider),
      (by decide : ValidText "verifier_1"), (by decide : ValidText "github.read/verifier"),
      (by decide : ValidText "r1"), (by decide : ValidText "r1"), (by decide : ValidText "r1")⟩,
      ⟨sha256.isDigest _, sha256.isDigest _, sha256.isDigest _⟩,
      (by decide : (1 : Int) ≤ 3600), Int.le_refl 3600⟩

/-- The policy, without its digest: a credential lasts five minutes at most. -/
def policyDraft : VerifierCredentialPolicy where
  credentialClass := "github.read/verifier"
  provider := githubProvider
  audience := githubApiAudience
  enabledEnvironments := ["staging"]
  accessMode := readOnlyAccessMode
  providerMutationAllowed := .bool false
  maxTtlSeconds := 300
  policyRevision := "r1"
  policyDigest := ""

def policy : VerifierCredentialPolicy :=
  { policyDraft with policyDigest := digestOf sha256.hexdigest policyDraft.claims }

theorem policy_checked : (policy sha256).postInit sha256.hexdigest = .ok () := by
  have enabled : ¬(["staging"] = [] ∨ ["staging"] ≠ sortedNames ["staging"].dedup ∨
      ∃ environment ∈ ["staging"], environment ∉ validEnvironments) := by decide
  simp only [VerifierCredentialPolicy.postInit, bind_eq_ok, requireTextFields_eq_ok,
    requireDigestFields_eq_ok, raiseIf_eq_ok, not_not]
  refine ⟨(), ?texts, (), enabled, (), rfl, (), rfl, (),
    (by decide : (1 : Int) ≤ 300 ∧ (300 : Int) ≤ 3600), (), ?digests, rfl⟩
  case texts =>
    simp only [List.forall_mem_cons]
    exact ⟨(by decide : ValidText "github.read/verifier"), (by decide : ValidText githubProvider),
      (by decide : ValidText githubApiAudience), (by decide : ValidText "r1"),
      List.forall_mem_nil _⟩
  case digests =>
    simp only [List.forall_mem_cons]
    exact ⟨sha256.isDigest _, List.forall_mem_nil _⟩

def terminal : CanonicalGitHubReadTerminal sha256.hexdigest where
  capabilityRegistry := capabilities sha256
  capsuleRegistry := capsules sha256
  runnerAdapter := adapter
  runnerHandler := handler
  verifierProfile := profile sha256
  verifierPolicy := policy sha256
  verifierHandler := ⟨clock, "github", "r1", clock_constructed, readerTexts⟩
  verifierClock := clock
  revisions := ⟨"r1", "r1", "r1"⟩
  sameRegistry := rfl
  profileChecked := profile_checked sha256
  policyChecked := policy_checked sha256
  sameCredentialClass := rfl
  sameProvider := rfl
  sameClock := rfl
  revisionTexts := by
    simp only [ReadbackEvidence.Revisions.textFields, List.forall_mem_cons]
    exact ⟨by decide, by decide, by decide, List.forall_mem_nil _⟩

/-- A run whose runner meets no obstacle. -/
def script : RunnerScript sha256.hexdigest Unit := ⟨answers sha256, reading sha256, .ok ()⟩

theorem completes {prepared : CanonicalPreparedExecution} (prepares : Prepares sha256 prepared) :
    (terminal sha256).Completes prepared (script sha256) := by
  have read : handler.observeRef sha256.hexdigest (reading sha256) (runtime sha256)
      (activation sha256) prepared.snapshot.executionTarget = .ok (observation sha256) :=
    prepares.target ▸ observation_read sha256
  have targeted : ¬prepared.snapshot.executionTarget.targetDigest ≠ prepared.targetDigest := by
    rw [prepares.target, prepares.targetDigest]
    exact not_not.mpr rfl
  refine CanonicalGitHubReadTerminal.completes_iff.mpr ⟨⟨runtime sha256,
    prepared.snapshot.executionTarget, observation sha256,
    GitHubRefReadHandler.built_of_observeRef read⟩, (), ?_, rfl⟩
  simp only [CanonicalGitHubReadTerminal.observe, bind_eq_ok, raiseIf_eq_ok, attached_eq_ok,
    pure_eq_ok, prepares.profile, prepares.capability, prepares.definition, prepares.capsule,
    prepares.lease]
  exact ⟨(), not_not.mpr rfl, _, definition_found sha256, (), not_not.mpr rfl, (),
    not_not.mpr rfl, _, capsule_found sha256, (), not_not.mpr rfl, (), targeted, runtime sha256,
    runtime_prepared sha256, activation sha256, runtime_activated sha256, ⟨_, read⟩, read, rfl⟩

end LongLifetime

end VoodooOne
