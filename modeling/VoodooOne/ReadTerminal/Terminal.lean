import VoodooOne.Pipeline.Prepared
import VoodooOne.ReadTerminal.Readings
import VoodooOne.Verification.Readback

/-!
# The terminal of reading executions

The terminal runs a prepared execution: a runner reads the reference, the execution is recorded as
completed, and then a verifier reads the reference again.  What the provider, the fences, the
transports, the clocks and the coordinator of completions answer is a script.
-/

namespace VoodooOne

open Calendar

/-- The result, together with the equation that it comes from. -/
def attached {ε α : Type} : (body : Except ε α) → Except ε {value : α // body = .ok value}
  | .ok value => .ok ⟨value, rfl⟩
  | .error error => .error error

theorem attached_eq_ok {ε α : Type} {body : Except ε α} {value : {value : α // body = .ok value}} :
    attached body = .ok value ↔ body = .ok value.1 := by
  obtain ⟨value, rfl⟩ := value
  exact iff_of_true rfl rfl

/-- `CanonicalGitHubReadTerminal`, with what its constructor checks. -/
structure CanonicalGitHubReadTerminal (sha256 : String → String) where
  capabilityRegistry : CapabilityRegistry
  capsuleRegistry : ExecutionCapsuleRegistry
  runnerAdapter : IsolatedRunnerAdapter
  runnerHandler : GitHubRefReadHandler
  verifierProfile : VerifierRuntimeProfile
  verifierPolicy : VerifierCredentialPolicy
  verifierHandler : VerifierGitHubRefReadHandler
  verifierClock : TrustedClockAuthority
  revisions : ReadbackEvidence.Revisions
  sameRegistry : capsuleRegistry.capabilities = capabilityRegistry
  profileChecked : verifierProfile.postInit = .ok ()
  policyChecked : verifierPolicy.postInit sha256 = .ok ()
  sameCredentialClass : verifierPolicy.credentialClass = verifierProfile.credentialClass
  sameProvider : verifierPolicy.provider = verifierProfile.provider
  sameClock : verifierHandler.trustedClock = verifierClock
  revisionTexts : ∀ named ∈ revisions.textFields, ValidText named.2

/-- What is answered to the runner, up to the completion of the execution. -/
structure RunnerScript (sha256 : String → String) (Durable : Type) where
  runtime : RuntimeAnswers sha256
  reading : ReadAnswers
  /-- `completion_coordinator.complete`. -/
  completion : Except Raised Durable

structure VerifierScript where
  /-- What the clock source returns for the decision. -/
  decided : ClockReading
  answers : VerifierAnswers

/-- What the runner has done when its observation is made. -/
structure RunnerObserved (sha256 : String → String) where
  runtime : PreparedIsolatedRuntime
  target : ExecutionTarget
  observation : GitHubRefObservation
  built : GitHubRefObservation.contract.Built sha256 observation

structure CanonicalReadTerminalResult (Durable : Type) where
  prepared : CanonicalPreparedExecution
  runnerObservation : GitHubRefObservation
  verifierIdentity : VerifierIdentity
  verificationBoundary : IndependentVerificationBoundary
  verifierCredentialDecision : VerifierCredentialDecision
  verifierObservation : VerifierGitHubRefObservation
  observedPostState : ObservedPostState
  verificationStrength : VerificationStrength
  verificationResult : VerificationResult
  durableCompletion : Durable

/-- What a run leaves: the lease and the digest under which the execution was completed, if it was,
and what is returned. -/
structure ReadRun (Durable : Type) where
  completed : Option (String × String)
  result : Except Raised (CanonicalReadTerminalResult Durable)

theorem GitHubRefReadHandler.built_of_observeRef {sha256 : String → String}
    {handler : GitHubRefReadHandler} {answers : ReadAnswers} {prepared : PreparedIsolatedRuntime}
    {activation : ReadOnlyRuntimeActivation} {target : ExecutionTarget}
    {observation : GitHubRefObservation}
    (observed : handler.observeRef sha256 answers prepared activation target = .ok observation) :
    GitHubRefObservation.contract.Built sha256 observation := by
  simp only [observeRef, GitHubRefObservation.create, bind_eq_ok] at observed
  obtain ⟨_, -, _, -, _, -, _, -, _, -, _, -, _, -, _, -, _, -, _, -, _, -, _, -, built⟩ := observed
  exact ⟨_, built⟩

theorem IndependentVerificationBoundary.built_of_create {sha256 : String → String}
    {verifier : VerifierIdentity} {runnerIdentity : RunnerIdentity}
    {runnerBoundary : RunnerBoundary} {runnerObservation : GitHubRefObservation}
    {boundaryRevision : String} {boundary : IndependentVerificationBoundary}
    (created : create sha256 verifier runnerIdentity runnerBoundary runnerObservation
      boundaryRevision = .ok boundary) : contract.Built sha256 boundary := by
  simp only [create, bind_eq_ok] at created
  obtain ⟨_, -, _, -, _, -, _, -, _, -, _, -, _, -, built⟩ := created
  exact ⟨_, built⟩

theorem VerifierGitHubRefReadHandler.built_of_observeRef {sha256 : String → String}
    {handler : VerifierGitHubRefReadHandler} {answers : VerifierAnswers} {access : VerifierAccess}
    {observation : VerifierGitHubRefObservation}
    (observed : handler.observeRef sha256 answers access = .ok observation) :
    VerifierGitHubRefObservation.contract.Built sha256 observation := by
  simp only [observeRef, VerifierGitHubRefObservation.create, bind_eq_ok] at observed
  obtain ⟨_, -, _, -, _, -, _, -, _, -, _, -, _, -, _, -, _, -, _, -, _, -, _, -, _, -, built⟩ :=
    observed
  exact ⟨_, built⟩

namespace CanonicalGitHubReadTerminal

variable {sha256 : String → String} {Durable : Type}
  (terminal : CanonicalGitHubReadTerminal sha256) (prepared : CanonicalPreparedExecution)

/-- `run`, up to the observation of the runner. -/
def observe (script : RunnerScript sha256 Durable) : Except Raised (RunnerObserved sha256) := do
  raiseIf (prepared.terminalProfile ≠ readOnlyTerminalProfile)
    (permissionDenied "CANONICAL_READ_TERMINAL_PROFILE_MISMATCH")
  let definition ← terminal.capabilityRegistry.definitionByIdentity
    prepared.capabilityDefinitionIdentity
  raiseIf (definition.capability ≠ prepared.capability)
    (permissionDenied "CANONICAL_READ_CAPABILITY_MISMATCH")
  raiseIf (definition.effectClass ≠ readOnlyEffectClass)
    (permissionDenied "CANONICAL_READ_EFFECT_CLASS_MISMATCH")
  let capsule ← terminal.capsuleRegistry.capsuleForDefinition
    prepared.capabilityDefinitionIdentity
  raiseIf (capsule.capsuleDigest ≠ prepared.executionCapsuleDigest)
    (permissionDenied "CANONICAL_READ_CAPSULE_MISMATCH")
  let target := prepared.snapshot.executionTarget
  raiseIf (target.targetDigest ≠ prepared.targetDigest)
    (permissionDenied "CANONICAL_READ_TARGET_MISMATCH")
  let runtime ← terminal.runnerAdapter.prepare script.runtime prepared.lease capsule definition
  let activation ← terminal.runnerAdapter.activate script.runtime runtime
  let observation ← attached (terminal.runnerHandler.observeRef sha256 script.reading runtime
    activation target)
  return ⟨runtime, target, observation.1,
    GitHubRefReadHandler.built_of_observeRef observation.2⟩

/-- `valid_from + timedelta(seconds=credential_ttl_seconds)`. -/
def expiry (validFrom : Instant) : Except Raised Instant :=
  orRaise ⟨.overflowError, "date value out of range"⟩
    (validFrom.later (terminal.verifierProfile.credentialTtlSeconds * 1000).toNat)

/-- `run`, from the completion of the execution on. -/
def verify (observed : RunnerObserved sha256) (durableCompletion : Durable)
    (script : VerifierScript) : Except Raised (CanonicalReadTerminalResult Durable) := do
  let { runtime, target, observation, built } := observed
  let profile := terminal.verifierProfile
  let verifier ← profile.identity sha256 prepared.environment
  let boundary ← attached (IndependentVerificationBoundary.create sha256 verifier
    runtime.identity runtime.boundary observation profile.boundaryRevision)
  let clockWitness ← terminal.verifierClock.witness sha256 prepared.environment script.decided
  let validFrom ← orRaise (valueError "Invalid isoformat string")
    (Instant.ofIsoformat? clockWitness.observedAt)
  let expiresAt ← terminal.expiry validFrom
  let decision ← VerifierCredentialDecision.create sha256 verifier boundary.1
    terminal.verifierPolicy validFrom.isoformat expiresAt.isoformat profile.decisionRevision
  let verifierObservation ← attached (terminal.verifierHandler.observeRef sha256 script.answers
    { verifier, boundary := boundary.1, decision, target })
  let evidence : ReadbackEvidence sha256 :=
    { runner := observation
      verifier := verifierObservation.1
      boundary := boundary.1
      runnerBuilt := built
      verifierBuilt := VerifierGitHubRefReadHandler.built_of_observeRef verifierObservation.2
      boundaryBuilt := IndependentVerificationBoundary.built_of_create boundary.2 }
  let artifacts ← evidence.verify terminal.revisions
  return {
    prepared
    runnerObservation := observation
    verifierIdentity := verifier
    verificationBoundary := boundary.1
    verifierCredentialDecision := decision
    verifierObservation := verifierObservation.1
    observedPostState := artifacts.1
    verificationStrength := artifacts.2.1
    verificationResult := artifacts.2.2
    durableCompletion }

def run (script : RunnerScript sha256 Durable) (verifier : VerifierScript) : ReadRun Durable :=
  match terminal.observe prepared script with
  | .error error => ⟨none, .error error⟩
  | .ok observed =>
      match script.completion with
      | .error error => ⟨none, .error error⟩
      | .ok durable =>
          ⟨some (prepared.leaseId, observed.observation.observationDigest),
            terminal.verify prepared observed durable verifier⟩

end CanonicalGitHubReadTerminal

variable {sha256 : Sha256}

def IsolatedRunnerAdapter.identityOf (adapter : IsolatedRunnerAdapter) (sha256 : Sha256)
    (bootstrap : IsolatedRuntimeBootstrap) : RunnerIdentity :=
  sha256.finish RunnerIdentity.contract { adapter.identityDraft bootstrap with
    runnerId := (adapter.identityDraft bootstrap).logicalIdentity sha256.hexdigest }

namespace RunnerBoundary

structure Shows (boundary : RunnerBoundary) (identity : RunnerIdentity) (lease : ExecutionLease)
    (capsule : ExecutionCapsule) : Prop where
  runnerId : boundary.runnerId = identity.runnerId
  identityDigest : boundary.runnerIdentityDigest = identity.identityDigest
  executionId : boundary.executionId = lease.executionId
  executionEpoch : boundary.executionEpoch = lease.executionEpoch
  environment : boundary.environment = lease.environment
  sameEnvironment : boundary.environment = identity.environment
  credentialClass : boundary.credentialClass = capsule.credentialClass

theorem of_create {identity : RunnerIdentity} {lease : ExecutionLease} {capsule : ExecutionCapsule}
    {definition : CapabilityDefinition} {boundaryRevision : String} {boundary : RunnerBoundary}
    (created : create sha256.hexdigest identity lease capsule definition boundaryRevision =
      .ok boundary) :
    contract.Built sha256.hexdigest boundary ∧ boundary.Shows identity lease capsule := by
  simp only [create, RunnerIdentity.assertBoundToLease, bind_eq_ok, raiseIf_eq_ok,
    not_not] at created
  obtain ⟨_, -, _, ⟨_, -, environment⟩, _, -, _, -, _, -, _, -, _, -, _, -, _, -, _, -, _, -, _, -,
    built⟩ := created
  obtain rfl := Contract.eq_of_create lawful built
  exact ⟨⟨_, built⟩, rfl, rfl, rfl, rfl, rfl, environment, rfl⟩

end RunnerBoundary

theorem IsolatedRunnerAdapter.of_prepare {adapter : IsolatedRunnerAdapter}
    {answers : RuntimeAnswers sha256.hexdigest} {lease : ExecutionLease}
    {capsule : ExecutionCapsule} {definition : CapabilityDefinition}
    {runtime : PreparedIsolatedRuntime}
    (prepared : adapter.prepare answers lease capsule definition = .ok runtime) :
    ∃ bootstrap, answers.bootstrap = .ok bootstrap ∧ runtime.bootstrap = bootstrap ∧
      runtime.lease = lease ∧ runtime.identity = adapter.identityOf sha256 bootstrap ∧
      RunnerBoundary.contract.Built sha256.hexdigest runtime.boundary ∧
      runtime.boundary.Shows runtime.identity lease capsule := by
  simp only [prepare, bind_eq_ok, pure_eq_ok] at prepared
  obtain ⟨_, -, _, -, _, -, bootstrap, reported, _, -, identity, identified, boundary, bounded,
    decision, -, _, -, rfl⟩ := prepared
  obtain ⟨built, shows⟩ := RunnerBoundary.of_create bounded
  exact ⟨bootstrap, reported, rfl, rfl, Contract.eq_of_create RunnerIdentity.lawful identified,
    built, shows⟩

theorem IsolatedRunnerAdapter.of_activate {adapter : IsolatedRunnerAdapter}
    {answers : RuntimeAnswers sha256.hexdigest} {prepared : PreparedIsolatedRuntime}
    {activation : ReadOnlyRuntimeActivation}
    (activated : adapter.activate answers prepared = .ok activation) :
    activation = sha256.finish ReadOnlyRuntimeActivation.contract
      (.draft prepared adapter.activationRevision) := by
  simp only [activate, ReadOnlyRuntimeActivation.create, bind_eq_ok, raiseIf_eq_ok, not_not,
    pure_eq_ok] at activated
  obtain ⟨_, -, _, -, _, -, expected, ⟨_, -, created⟩, _, same, rfl⟩ := activated
  exact same.trans (Contract.eq_of_create ReadOnlyRuntimeActivation.lawful created)

namespace GitHubRefObservation

structure Shows (observation : GitHubRefObservation) (activation : ReadOnlyRuntimeActivation)
    (target : ExecutionTarget) (start : Instant) : Prop where
  runnerId : observation.runnerId = activation.runnerId
  boundaryDigest : observation.runnerBoundaryDigest = activation.runnerBoundaryDigest
  providerInstance : observation.providerInstanceId = activation.providerInstanceId
  executionId : observation.executionId = activation.executionId
  executionEpoch : observation.executionEpoch = activation.executionEpoch
  capsuleDigest : observation.executionCapsuleDigest = activation.executionCapsuleDigest
  capability :
    observation.capabilityDefinitionIdentity = activation.capabilityDefinitionIdentity
  targetDigest : observation.targetDigest = target.targetDigest
  named : target.parseGitRef = .ok (observation.repository, observation.ref)
  observedAt : observation.observedAt = start.isoformat

theorem of_observeRef {handler : GitHubRefReadHandler} {answers : ReadAnswers}
    {prepared : PreparedIsolatedRuntime} {activation : ReadOnlyRuntimeActivation}
    {target : ExecutionTarget} {observation : GitHubRefObservation}
    (observed : handler.observeRef sha256.hexdigest answers prepared activation target =
      .ok observation) :
    ∃ start, answers.reading = .aware start ∧ observation.Shows activation target start := by
  simp only [GitHubRefReadHandler.observeRef, create, bind_eq_ok, requireReadRepository_eq_ok,
    requireReadRef_eq_ok, requireGitObjectId_eq_ok, Json.str.injEq] at observed
  obtain ⟨_, -, ⟨repository, ref⟩, parsed, _, -, _, -, commitSha, -, witness, witnessed, _, -, _,
    ⟨rfl, -⟩, _, ⟨rfl, -⟩, _, ⟨rfl, -⟩, _, -, _, -, built⟩ := observed
  obtain ⟨start, reading, observedAt, -⟩ := TrustedClockAuthority.witness_eq_ok witnessed
  obtain rfl := Contract.eq_of_create lawful built
  exact ⟨start, reading, rfl, rfl, rfl, rfl, rfl, rfl, rfl, rfl, parsed, observedAt⟩

end GitHubRefObservation

/-- What the runner's part of a run shows. -/
structure RunnerEvidence (terminal : CanonicalGitHubReadTerminal sha256.hexdigest)
    (prepared : CanonicalPreparedExecution) (bootstrap : IsolatedRuntimeBootstrap)
    (capsule : ExecutionCapsule) (start : Instant)
    (observed : RunnerObserved sha256.hexdigest) : Prop where
  identity : observed.runtime.identity = terminal.runnerAdapter.identityOf sha256 bootstrap
  boundaryBuilt : RunnerBoundary.contract.Built sha256.hexdigest observed.runtime.boundary
  environment : observed.runtime.boundary.environment = prepared.lease.environment
  credentialClass : observed.runtime.boundary.credentialClass = capsule.credentialClass
  bound : IndependentVerificationBoundary.assertRunnerEvidenceBound observed.runtime.identity
    observed.runtime.boundary observed.observation = .ok ()
  targetDigest : observed.observation.targetDigest = observed.target.targetDigest
  named : observed.target.parseGitRef =
    .ok (observed.observation.repository, observed.observation.ref)
  observedAt : observed.observation.observedAt = start.isoformat

theorem RunnerEvidence.of_observe {terminal : CanonicalGitHubReadTerminal sha256.hexdigest}
    {prepared : CanonicalPreparedExecution} {Durable : Type}
    {script : RunnerScript sha256.hexdigest Durable} {observed : RunnerObserved sha256.hexdigest}
    (seen : terminal.observe prepared script = .ok observed) :
    ∃ bootstrap capsule start, script.runtime.bootstrap = .ok bootstrap ∧
      terminal.capsuleRegistry.capsuleForDefinition prepared.capabilityDefinitionIdentity =
        .ok capsule ∧
      script.reading.reading = .aware start ∧
      RunnerEvidence terminal prepared bootstrap capsule start observed := by
  simp only [CanonicalGitHubReadTerminal.observe, bind_eq_ok, attached_eq_ok, pure_eq_ok] at seen
  obtain ⟨_, -, definition, -, _, -, _, -, capsule, registered, _, -, _, -, runtime, prepare,
    activation, activate, ⟨observation, _⟩, observe, rfl⟩ := seen
  obtain ⟨bootstrap, reported, ofReport, lease, identity, built, boundary⟩ :=
    IsolatedRunnerAdapter.of_prepare prepare
  obtain rfl := IsolatedRunnerAdapter.of_activate activate
  obtain ⟨start, reading, shows⟩ := GitHubRefObservation.of_observeRef observe
  have instances : runtime.bootstrap.providerInstanceId = runtime.identity.providerInstanceId := by
    rw [identity, ofReport]
    rfl
  refine ⟨bootstrap, capsule, start, reported, registered, reading, ?_⟩
  constructor
  case identity => exact identity
  case boundaryBuilt => exact built
  case environment => exact boundary.environment
  case credentialClass => exact boundary.credentialClass
  case bound =>
    simp only [IndependentVerificationBoundary.assertRunnerEvidenceBound, bind_eq_ok,
      raiseIf_eq_ok, not_not]
    refine ⟨(), boundary.runnerId, (), boundary.identityDigest, (), boundary.sameEnvironment, (),
      shows.runnerId, (), shows.boundaryDigest, (), shows.providerInstance.trans instances, (),
      ?_, (), ?_, (), shows.capsuleDigest, shows.capability⟩
    · exact shows.executionId.trans ((congrArg ExecutionLease.executionId lease).trans
        boundary.executionId.symm)
    · exact shows.executionEpoch.trans ((congrArg ExecutionLease.executionEpoch lease).trans
        boundary.executionEpoch.symm)
  case targetDigest => exact shows.targetDigest
  case named => exact shows.named
  case observedAt => exact shows.observedAt

end VoodooOne
