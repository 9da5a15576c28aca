import VoodooOne.ReadTerminal.VerifierProgress

/-!
# Completion without a result

An execution is completed before its verifier is set up.  A result can then be ruled out by what the
terminal holds: by the environments, the lifetime of the credential, or a verifier that is not apart
from the runner.  These are exactly the cases in which a completion is not followed by a result
although the verifier reads in time.
-/

namespace VoodooOne

open Calendar

variable {sha256 : Sha256} {Durable : Type}

namespace CanonicalGitHubReadTerminal

variable (terminal : CanonicalGitHubReadTerminal sha256.hexdigest)
  (prepared : CanonicalPreparedExecution) (script : RunnerScript sha256.hexdigest Durable)

/-- What the verifier's side asks for apart from its reading and its time. -/
structure Admits (bootstrap : IsolatedRuntimeBootstrap) (capsule : ExecutionCapsule) : Prop where
  environment : prepared.environment = prepared.lease.environment
  enabled : prepared.environment ∈ terminal.verifierPolicy.enabledEnvironments
  clock : prepared.environment ∈ terminal.verifierClock.allowedEnvironments
  lifetime : terminal.verifierProfile.credentialTtlSeconds ≤ terminal.verifierPolicy.maxTtlSeconds
  apart : IndependentVerificationBoundary.Apart
    (terminal.verifierProfile.identityOf sha256 prepared.environment)
    (terminal.runnerAdapter.identityOf sha256 bootstrap) capsule.credentialClass

/-- The run completes the execution, whatever its verifier meets. -/
def Completes : Prop :=
  ∀ verifier, (terminal.run prepared script verifier).completed.isSome = true

def Returns (verifier : VerifierScript) : Prop :=
  ∃ result, (terminal.run prepared script verifier).result = .ok result

/-- The moments that the clocks of a run show. -/
structure Moments where
  (start decided accessed observed : Instant)

/-- The clocks show the moments, and do not go back. -/
structure Moments.Shown (moments : Moments) (script : RunnerScript sha256.hexdigest Durable)
    (verifier : VerifierScript) : Prop where
  start : script.reading.reading = .aware moments.start
  decided : verifier.decided = .aware moments.decided
  accessed : verifier.answers.access = .aware moments.accessed
  observed : verifier.answers.observation = .aware moments.observed
  nondecreasing : moments.start ≤ moments.decided ∧ moments.decided ≤ moments.accessed ∧
    moments.accessed ≤ moments.observed

/-- The credential has ended when the verifier reads. -/
def TimeRanOut (moments : Moments) : Prop :=
  ∀ stop, terminal.expiry moments.decided = .ok stop → stop ≤ moments.accessed

/-- The provider has named no commit to the verifier. -/
def ReadFailed (verifier : VerifierScript) : Prop :=
  ∀ commitSha, ¬Answered verifier.answers.commitSha commitSha

/-- Once the execution is completed, a result is still possible, and it fails to appear only when
the verifier's reading fails or time runs out. -/
def Accountable : Prop :=
  terminal.Completes prepared script →
    (∃ verifier, ∃ moments : Moments, moments.Shown script verifier ∧
      terminal.Returns prepared script verifier) ∧
    ∀ verifier, ∀ moments : Moments, moments.Shown script verifier →
      terminal.Returns prepared script verifier ∨ ReadFailed verifier ∨ terminal.TimeRanOut moments

/-- The terminal admits the verifier of the reported runtime, and the calendar goes on for the
lifetime of its credential. -/
def Permits : Prop :=
  ∃ bootstrap capsule start, script.runtime.bootstrap = .ok bootstrap ∧
    terminal.capsuleRegistry.capsuleForDefinition prepared.capabilityDefinitionIdentity =
      .ok capsule ∧
    script.reading.reading = .aware start ∧ terminal.Admits prepared bootstrap capsule ∧
    ∃ stop, terminal.expiry start = .ok stop

variable {terminal prepared script}

variable {observed : RunnerObserved sha256.hexdigest} {durable : Durable}

theorem run_eq (seen : terminal.observe prepared script = .ok observed)
    (recorded : script.completion = .ok durable) (verifier : VerifierScript) :
    terminal.run prepared script verifier =
      ⟨some (prepared.leaseId, observed.observation.observationDigest),
        terminal.verify prepared observed durable verifier⟩ := by
  rw [run, seen]
  dsimp only
  rw [recorded]

theorem completes_iff : terminal.Completes prepared script ↔
    ∃ observed durable, terminal.observe prepared script = .ok observed ∧
      script.completion = .ok durable := by
  constructor
  · intro completes
    have completed := completes ⟨.naive, .naive, .ok .null, .naive⟩
    rw [run] at completed
    cases seen : terminal.observe prepared script with
    | error error =>
        rw [seen] at completed
        cases completed
    | ok observed =>
        cases recorded : script.completion with
        | error error =>
            rw [seen] at completed
            dsimp only at completed
            rw [recorded] at completed
            cases completed
        | ok durable => exact ⟨observed, durable, rfl, rfl⟩
  · rintro ⟨observed, durable, seen, recorded⟩ verifier
    rw [run_eq seen recorded]
    rfl

theorem expiry_eq_ok {start stop : Instant} : terminal.expiry start = .ok stop ↔
    (stop.milliseconds : Int) =
      start.milliseconds + terminal.verifierProfile.credentialTtlSeconds * 1000 := by
  have bounds := (VerifierRuntimeProfile.postInit_eq_ok.mp terminal.profileChecked).2.2
  rw [expiry, orRaise_eq_ok, Instant.later_eq_some]
  omega

theorem lt_expiry {start stop : Instant} (expires : terminal.expiry start = .ok stop) :
    start < stop := by
  have bounds := (VerifierRuntimeProfile.postInit_eq_ok.mp terminal.profileChecked).2.2
  rw [expiry_eq_ok] at expires
  rw [Instant.lt_iff]
  omega

/-- A result is returned only under what the verifier's side asks for. -/
theorem admits_of_verify {bootstrap : IsolatedRuntimeBootstrap} {capsule : ExecutionCapsule}
    {start : Instant} (evidence : RunnerEvidence terminal prepared bootstrap capsule start observed)
    {verifier : VerifierScript} {result : CanonicalReadTerminalResult Durable}
    (verified : terminal.verify prepared observed durable verifier = .ok result) :
    terminal.Admits prepared bootstrap capsule ∧
      ∃ decided stop, verifier.decided = .aware decided ∧ terminal.expiry decided = .ok stop := by
  obtain ⟨runtime, target, observation, built⟩ := observed
  simp only [verify, bind_eq_ok, attached_eq_ok] at verified
  obtain ⟨identity, identified, ⟨boundary, _⟩, bounded, witness, witnessed, validFrom, read, stop,
    expires, decision, decides, -⟩ := verified
  obtain rfl := Contract.eq_of_create VerifierIdentity.lawful identified
  obtain ⟨decided, reading, observedAt, -⟩ := TrustedClockAuthority.witness_eq_ok witnessed
  rw [observedAt, orRaise_eq_ok, Instant.ofIsoformat?_eq_some] at read
  obtain rfl := Instant.isoformat_injective read
  simp only [IndependentVerificationBoundary.create, bind_eq_ok, raiseIf_eq_ok, not_not] at bounded
  obtain ⟨_, -, _, -, _, environment, _, ids, _, digests, _, instances, _, credentials, -⟩ :=
    bounded
  simp only [TrustedClockAuthority.witness, bind_eq_ok, raiseIf_eq_ok, not_not] at witnessed
  obtain ⟨_, -, _, allowed, -⟩ := witnessed
  simp only [VerifierCredentialDecision.create, bind_eq_ok, raiseIf_eq_ok, not_not, not_or, not_lt,
    requireTimestamp_of_isoformat, Except.ok.injEq] at decides
  obtain ⟨_, -, _, rfl, _, rfl, _, -, _, lifetime, _, -, _, -, _, -, _, -, _, ⟨-, enabled⟩, -⟩ :=
    decides
  have lasts := expiry_eq_ok.mp expires
  refine ⟨?_, validFrom, stop, reading, expires⟩
  constructor
  case environment => exact environment.trans evidence.environment
  case enabled => exact enabled
  case clock => exact allowed
  case lifetime => omega
  case apart =>
    rw [← evidence.identity, ← evidence.credentialClass]
    exact ⟨ids, digests, instances, credentials⟩

/-- Where the terminal admits the verifier, a reading in time leads to a result. -/
theorem verify_of_admits {bootstrap : IsolatedRuntimeBootstrap} {capsule : ExecutionCapsule}
    {start : Instant} (evidence : RunnerEvidence terminal prepared bootstrap capsule start observed)
    (admits : terminal.Admits prepared bootstrap capsule) {decided stop accessed read : Instant}
    (expires : terminal.expiry decided = .ok stop) (begun : decided ≤ accessed)
    (unended : accessed < stop) (order : start ≤ read) {answer : Except Raised Json}
    {commitSha : String} (answered : Answered answer commitSha) :
    ∃ result, terminal.verify prepared observed durable
      ⟨.aware decided, .aware accessed, answer, .aware read⟩ = .ok result := by
  obtain ⟨runtime, target, observation, built⟩ := observed
  have boundaryChecked := RunnerBoundary.checked_of_built evidence.boundaryBuilt
  have sameEnvironment : prepared.environment = runtime.boundary.environment :=
    admits.environment.trans evidence.environment.symm
  have valid : prepared.environment ∈ validEnvironments :=
    sameEnvironment ▸ boundaryChecked.environment
  let verifier := terminal.verifierProfile.identityOf sha256 prepared.environment
  have identified : terminal.verifierProfile.identity sha256.hexdigest prepared.environment =
      .ok verifier := VerifierRuntimeProfile.identity_eq terminal.profileChecked valid
  have verifierChecked := VerifierIdentity.checked_of_built ⟨_, identified⟩
  obtain ⟨-, -, -, -, -, boundaryRevision, decisionRevision⟩ :=
    (VerifierRuntimeProfile.postInit_eq_ok.mp terminal.profileChecked).1
  have apart : IndependentVerificationBoundary.Apart verifier runtime.identity
      runtime.boundary.credentialClass := by
    rw [evidence.identity, evidence.credentialClass]
    exact admits.apart
  let profile := terminal.verifierProfile
  let boundary : IndependentVerificationBoundary :=
    sha256.finish IndependentVerificationBoundary.contract (.draft verifier runtime.identity
      runtime.boundary observation profile.boundaryRevision)
  have bounded : IndependentVerificationBoundary.create sha256.hexdigest verifier
      runtime.identity runtime.boundary observation profile.boundaryRevision = .ok boundary :=
    IndependentVerificationBoundary.create_eq verifierChecked boundaryChecked
      (GitHubRefObservation.checked_of_built built) evidence.bound sameEnvironment apart
      boundaryRevision
  have boundaryBuilt := IndependentVerificationBoundary.built_of_create bounded
  have ofVerifier : boundary.OfVerifier verifier :=
    ⟨rfl, rfl, rfl, rfl, rfl, rfl, sameEnvironment, rfl⟩
  have admitted : VerifierCredentialDecision.Admitted terminal.verifierPolicy verifier decided
      stop := by
    have lasts := expiry_eq_ok.mp expires
    have lifetime := admits.lifetime
    exact ⟨terminal.sameCredentialClass.symm, terminal.sameProvider.symm, admits.enabled,
      lt_expiry expires, by omega⟩
  have boundaryChecked := IndependentVerificationBoundary.checked_of_built boundaryBuilt
  let access : VerifierAccess := .decided sha256 verifier boundary terminal.verifierPolicy decided
    stop profile.decisionRevision target
  have decides : VerifierCredentialDecision.create sha256.hexdigest verifier boundary
      terminal.verifierPolicy decided.isoformat stop.isoformat profile.decisionRevision =
        .ok access.decision :=
    VerifierCredentialDecision.create_eq verifierChecked boundaryChecked
      (VerifierCredentialPolicy.checked_of_postInit terminal.policyChecked) ofVerifier admitted
      decisionRevision
  have allowed : verifier.environment ∈
      terminal.verifierHandler.trustedClock.allowedEnvironments := by
    rw [terminal.sameClock]
    exact admits.clock
  let handler := terminal.verifierHandler
  have observes : handler.observeRef sha256.hexdigest ⟨.aware accessed, answer, .aware read⟩
      access = .ok (handler.observationOf sha256 access (observation.repository, observation.ref)
        commitSha accessed read) :=
    VerifierGitHubRefReadHandler.observeRef_eq verifierChecked boundaryChecked ofVerifier admitted
      evidence.targetDigest evidence.named allowed begun unended answered
  let readback : ReadbackEvidence sha256.hexdigest :=
    ⟨observation, _, boundary, built, VerifierGitHubRefReadHandler.built_of_observeRef observes,
      boundaryBuilt⟩
  have bound : readback.assertBound = .ok () := by
    have parts := evidence.bound
    simp only [IndependentVerificationBoundary.assertRunnerEvidenceBound, bind_eq_ok,
      raiseIf_eq_ok, not_not] at parts
    obtain ⟨_, -, _, -, _, -, _, runnerId, _, boundaryDigest, _, instances, -⟩ := parts
    refine ReadbackEvidence.assertBound_eq_ok.mpr ⟨ReadbackEvidence.mismatches_eq_nil.mpr ⟨?_, ?_⟩,
      ⟨rfl, rfl⟩, start, read, evidence.observedAt, rfl, order⟩
    · exact ⟨⟨rfl, rfl⟩, ⟨rfl, rfl⟩, ⟨evidence.targetDigest.symm, rfl⟩, ⟨rfl, rfl⟩⟩
    · exact ⟨rfl, rfl, rfl, rfl, rfl, runnerId.symm, instances.symm, boundaryDigest.symm⟩
  have clock : terminal.verifierClock.witness sha256.hexdigest prepared.environment
      (.aware decided) =
        .ok (terminal.verifierClock.witnessOf sha256 prepared.environment decided) := by
    refine TrustedClockAuthority.witness_of_aware ?_ admits.clock decided
    rw [← terminal.sameClock]
    exact terminal.verifierHandler.clockConstructed
  simp only [verify, bind_eq_ok, attached_eq_ok, pure_eq_ok]
  exact ⟨_, verifier, identified, ⟨boundary, bounded⟩, bounded, _, clock, decided,
    orRaise_eq_ok.mpr (Instant.ofIsoformat?_eq_some.mpr rfl), stop, expires, _, decides,
    ⟨_, observes⟩, observes, _,
    readback.verify_of_bound bound terminal.revisionTexts, rfl⟩

theorem answered_of_isDigest {text : String} (digest : IsDigest text) :
    Answered (.ok (.str text)) text := by
  refine ⟨rfl, validText_of_isDigest digest, ?_⟩
  rw [isGitObjectId, Bool.and_eq_true, Bool.or_eq_true]
  refine ⟨.inr (beq_iff_eq.mpr digest.1), List.all_eq_true.mpr fun character member => ?_⟩
  exact List.contains_iff_mem.mpr (digest.2 character member)

theorem accountable_of_permits (permits : terminal.Permits prepared script) :
    terminal.Accountable prepared script := by
  obtain ⟨bootstrap, capsule, start, reported, registered, reading, admits, stop, expires⟩ :=
    permits
  intro completes
  obtain ⟨observed, durable, seen, recorded⟩ := completes_iff.mp completes
  obtain ⟨bootstrap', capsule', start', reported', registered', reading', evidence⟩ :=
    RunnerEvidence.of_observe seen
  obtain rfl := Except.ok.inj (reported.symm.trans reported')
  obtain rfl := Except.ok.inj (registered.symm.trans registered')
  obtain rfl := ClockReading.aware.inj (reading.symm.trans reading')
  have returns {decided until' accessed read : Instant} {answer : Except Raised Json}
      {commitSha : String} (expires : terminal.expiry decided = .ok until')
      (begun : decided ≤ accessed) (unended : accessed < until') (order : start ≤ read)
      (answered : Answered answer commitSha) :
      terminal.Returns prepared script ⟨.aware decided, .aware accessed, answer, .aware read⟩ := by
    rw [Returns, run_eq seen recorded]
    exact verify_of_admits evidence admits expires begun unended order answered
  refine ⟨⟨⟨.aware start, .aware start, .ok (.str sha256.someDigest), .aware start⟩,
    ⟨start, start, start, start⟩, ⟨reading, rfl, rfl, rfl, le_rfl, le_rfl, le_rfl⟩,
    returns expires le_rfl (lt_expiry expires) le_rfl
      (answered_of_isDigest (sha256.isDigest _))⟩, ?_⟩
  rintro ⟨_, _, answer, _⟩ moments shown
  obtain ⟨first, rfl, rfl, rfl, order⟩ := shown
  by_cases late : terminal.TimeRanOut moments
  · exact .inr (.inr late)
  · by_cases failed : ReadFailed ⟨.aware moments.decided, .aware moments.accessed, answer,
        .aware moments.observed⟩
    · exact .inr (.inl failed)
    · left
      simp only [TimeRanOut, ReadFailed, not_forall, not_le, not_not] at late failed
      obtain ⟨until', expires', unended⟩ := late
      obtain ⟨commitSha, answered⟩ := failed
      obtain rfl := ClockReading.aware.inj (reading.symm.trans first)
      exact returns expires' order.2.1 unended (order.1.trans (order.2.1.trans order.2.2)) answered

theorem permits_of_accountable (accountable : terminal.Accountable prepared script)
    (completes : terminal.Completes prepared script) : terminal.Permits prepared script := by
  obtain ⟨observed, durable, seen, recorded⟩ := completes_iff.mp completes
  obtain ⟨bootstrap, capsule, start, reported, registered, reading, evidence⟩ :=
    RunnerEvidence.of_observe seen
  obtain ⟨⟨verifier, moments, shown, result, returned⟩, -⟩ := accountable completes
  rw [run_eq seen recorded] at returned
  obtain ⟨admits, decided, stop, decidedAt, expires⟩ := admits_of_verify evidence returned
  obtain rfl := ClockReading.aware.inj (decidedAt.symm.trans shown.decided)
  obtain rfl := ClockReading.aware.inj (reading.symm.trans shown.start)
  -- the clock did not go back, so the calendar also held the lifetime when the runner read
  have earlier := Instant.le_iff.mp shown.nondecreasing.1
  have lasts := expiry_eq_ok.mp expires
  refine ⟨bootstrap, capsule, _, reported, registered, reading, admits, ?_⟩
  have bounds := (VerifierRuntimeProfile.postInit_eq_ok.mp terminal.profileChecked).2.2
  have inRange := stop.inRange
  refine ⟨⟨moments.start.milliseconds +
    (terminal.verifierProfile.credentialTtlSeconds * 1000).toNat, by omega⟩, ?_⟩
  rw [expiry_eq_ok]
  dsimp only
  omega

end CanonicalGitHubReadTerminal

end VoodooOne
