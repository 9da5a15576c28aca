import VoodooOne.Credential.Decisions
import VoodooOne.Evidence.Chain
import VoodooOne.Library.Window

/-!
# Lifetime of credential decisions

A decision should last no longer than the lease it was made for, and its id should be the digest
of what it binds.  The first two generations take their interval from the lease and compare the id
whenever a decision is built.  The third takes the caller's interval and compares no id.
-/

namespace VoodooOne

open Calendar

/-- Two texts show the ends of a window of time. -/
def ShowsWindow (start stop : String) (window : Window Instant) : Prop :=
  start = window.start.isoformat ∧ stop = window.stop.isoformat

/-- Later windows in the texts are later windows in time. -/
theorem ShowsWindow.le_iff {start stop outerStart outerStop : String}
    {inner outer : Window Instant} (shows : ShowsWindow start stop inner)
    (outerShows : ShowsWindow outerStart outerStop outer) :
    inner ≤ outer ↔ outerStart ≤ start ∧ stop ≤ outerStop := by
  obtain ⟨rfl, rfl⟩ := shows
  obtain ⟨rfl, rfl⟩ := outerShows
  rw [Window.le_iff, Instant.isoformat_le_isoformat, Instant.isoformat_le_isoformat]

theorem ShowsWindow.unique {start stop : String} {left right : Window Instant}
    (leftShows : ShowsWindow start stop left) (rightShows : ShowsWindow start stop right) :
    left = right := by
  obtain ⟨leftStart, leftStop, _⟩ := left
  obtain ⟨rightStart, rightStop, _⟩ := right
  obtain ⟨rfl, rfl⟩ := leftShows
  obtain rfl : leftStart = rightStart := Instant.isoformat_injective rightShows.1
  obtain rfl : leftStop = rightStop := Instant.isoformat_injective rightShows.2
  rfl

/-- The checks of two ordered timestamps leave a window. -/
theorem showsWindow_of_required {start stop startField stopField : String} {first last : Instant}
    (startRead : requireTimestamp (.str start) startField = .ok first)
    (stopRead : requireTimestamp (.str stop) stopField = .ok last) (ordered : ¬last ≤ first) :
    ShowsWindow start stop ⟨first, last, not_le.mp ordered⟩ :=
  ⟨Json.str.inj (requireTimestamp_eq_ok.mp startRead).1,
    Json.str.inj (requireTimestamp_eq_ok.mp stopRead).1⟩

inductive CredentialDecision where
  | v1 (decision : CredentialAccessDecision)
  | v2 (decision : CredentialAccessDecisionV2)
  | v3 (decision : CredentialAccessDecisionV3)

namespace CredentialDecision

def decisionId : CredentialDecision → String
  | .v1 decision => decision.decisionId
  | .v2 decision => decision.decisionId
  | .v3 decision => decision.decisionId

/-- The interval in which the credential may be used. -/
def interval : CredentialDecision → String × String
  | .v1 decision => (decision.validFrom, decision.expiresAt)
  | .v2 decision => (decision.validFrom, decision.expiresAt)
  | .v3 decision => (decision.validFrom, decision.expiresAt)

def bindings : CredentialDecision → List String
  | .v1 decision => [decision.runnerBoundaryDigest, decision.leaseDigest, decision.policyDigest]
  | .v2 decision => [decision.runnerBoundaryDigest, decision.leaseDigest, decision.policyDigest]
  | .v3 decision => [decision.runnerBoundaryDigest, decision.leaseDigest, decision.policyDigest]

def identity (sha256 : String → String) : CredentialDecision → String
  | .v1 decision => decision.logicalIdentity sha256
  | .v2 decision => decision.logicalIdentity sha256
  | .v3 decision => CredentialAccessDecisionV3.identity sha256 decision.runnerBoundaryDigest
      decision.policyDigest decision.validFrom decision.expiresAt

end CredentialDecision

/-- A boundary of the third generation and the lease that it was created for. -/
structure RollbackBoundary (sha256 : String → String) where
  boundary : RunnerBoundaryV3
  lease : ExecutionLease
  checked : boundary.postInit sha256 = .ok ()
  leaseBuilt : ExecutionLease.contract.Built sha256 lease
  ofLease : boundary.leaseId = lease.leaseId ∧ boundary.leaseDigest = lease.leaseDigest

inductive CredentialRequest (sha256 : String → String) where
  | readOnly (boundary : RunnerBoundary) (lease : ExecutionLease) (policy : CredentialBrokerPolicy)
      (decisionRevision : String)
  | createRef (boundary : RunnerBoundaryV2) (lease : ExecutionLease)
      (policy : CredentialBrokerPolicyV2) (decisionRevision : String)
  | rollback (leased : RollbackBoundary sha256) (policy : CredentialBrokerPolicyV3)
      (checked : policy.postInit sha256 = .ok ()) (validFrom expiresAt decisionRevision : String)

namespace CredentialRequest

variable {sha256 : String → String}

def lease : CredentialRequest sha256 → ExecutionLease
  | .readOnly _ lease _ _ => lease
  | .createRef _ lease _ _ => lease
  | .rollback leased _ _ _ _ _ => leased.lease

/-- The longest lifetime in seconds that the policy allows, where it has one. -/
def maxTtlSeconds : CredentialRequest sha256 → Option Nat
  | .readOnly _ _ _ _ => none
  | .createRef _ _ policy _ => some policy.maxTtlSeconds
  | .rollback _ policy _ _ _ _ => some policy.maxTtlSeconds

def bindings : CredentialRequest sha256 → List String
  | .readOnly boundary lease policy _ =>
      [boundary.boundaryDigest, lease.leaseDigest, policy.policyDigest]
  | .createRef boundary lease policy _ =>
      [boundary.boundaryDigest, lease.leaseDigest, policy.policyDigest]
  | .rollback leased policy _ _ _ _ =>
      [leased.boundary.boundaryDigest, leased.lease.leaseDigest, policy.policyDigest]

/-- The decision that `create` makes. -/
def decide : CredentialRequest sha256 → Except Raised CredentialDecision
  | .readOnly boundary lease policy decisionRevision => do
      return .v1 (← CredentialAccessDecision.create sha256 boundary lease policy decisionRevision)
  | .createRef boundary lease policy decisionRevision => do
      return .v2 (← CredentialAccessDecisionV2.create sha256 boundary lease policy decisionRevision)
  | .rollback leased policy _ validFrom expiresAt decisionRevision => do
      return .v3 (← CredentialAccessDecisionV3.create sha256 leased.boundary policy validFrom
        expiresAt decisionRevision)

/-- A decision within its lease and its policy, under the digest of what it binds. -/
structure Sound (request : CredentialRequest sha256) (decision : CredentialDecision) : Prop where
  bindings : decision.bindings = request.bindings
  identity : decision.decisionId = decision.identity sha256
  lifetime : ∃ leased window : Window Instant,
    ShowsWindow request.lease.acquiredAt request.lease.expiresAt leased ∧
      ShowsWindow decision.interval.1 decision.interval.2 window ∧ window ≤ leased ∧
        ∀ seconds ∈ request.maxTtlSeconds,
          window.stop.milliseconds ≤ window.start.milliseconds + seconds * 1000

/-- A request of the third generation asks for no time outside its lease. -/
def AsksWithinLease : CredentialRequest sha256 → Prop
  | .readOnly _ _ _ _ => True
  | .createRef _ _ _ _ => True
  | .rollback leased _ _ validFrom expiresAt _ =>
      leased.lease.acquiredAt ≤ validFrom ∧ expiresAt ≤ leased.lease.expiresAt

end CredentialRequest

theorem CredentialAccessDecision.of_construct {sha256 : String → String} {self : Attributes}
    {decision : CredentialAccessDecision}
    (built : CredentialAccessDecision.contract.construct sha256 self = .ok decision) :
    decision.decisionId = decision.logicalIdentity sha256 ∧
      ∃ window, ShowsWindow decision.validFrom decision.expiresAt window := by
  obtain ⟨-, -, checked, -⟩ := Contract.construct_eq_ok.mp built
  simp only [CredentialAccessDecision.contract, bind_eq_ok, raiseIf_eq_ok, not_not] at checked
  obtain ⟨first, startRead, last, stopRead, _, ordered, _, -, _, -, identity⟩ := checked
  exact ⟨identity, _, showsWindow_of_required startRead stopRead ordered⟩

theorem CredentialAccessDecisionV2.of_construct {sha256 : String → String} {self : Attributes}
    {decision : CredentialAccessDecisionV2}
    (built : CredentialAccessDecisionV2.contract.construct sha256 self = .ok decision) :
    decision.decisionId = decision.logicalIdentity sha256 ∧
      ∃ window, ShowsWindow decision.validFrom decision.expiresAt window := by
  obtain ⟨-, -, checked, -⟩ := Contract.construct_eq_ok.mp built
  simp only [CredentialAccessDecisionV2.contract, bind_eq_ok, raiseIf_eq_ok, not_not] at checked
  obtain ⟨first, startRead, last, stopRead, _, ordered, _, -, _, -, _, -, _, -, _, -, _, -, _, -,
    identity⟩ := checked
  exact ⟨identity, _, showsWindow_of_required startRead stopRead ordered⟩

theorem ExecutionLease.showsWindow_of_built {sha256 : String → String} {lease : ExecutionLease}
    (built : ExecutionLease.contract.Built sha256 lease) :
    ∃ leased, ShowsWindow lease.acquiredAt lease.expiresAt leased := by
  obtain ⟨self, constructed⟩ := built
  obtain ⟨-, -, checked, -⟩ := Contract.construct_eq_ok.mp constructed
  simp only [ExecutionLease.contract, bind_eq_ok, raiseIf_eq_ok] at checked
  obtain ⟨first, startRead, last, stopRead, _, ordered, -⟩ := checked
  exact ⟨_, showsWindow_of_required startRead stopRead ordered⟩

namespace CredentialRequest

variable {sha256 : String → String}

/-- The first generation copies the interval of the lease. -/
theorem sound_readOnly {boundary : RunnerBoundary} {lease : ExecutionLease}
    {policy : CredentialBrokerPolicy} {decisionRevision : String}
    {decision : CredentialAccessDecision}
    (created : CredentialAccessDecision.create sha256 boundary lease policy decisionRevision =
      .ok decision) :
    Sound (.readOnly boundary lease policy decisionRevision : CredentialRequest sha256)
      (.v1 decision) := by
  simp only [CredentialAccessDecision.create, bind_eq_ok] at created
  obtain ⟨_, -, _, -, _, -, _, -, _, -, _, -, _, -, _, -, _, -, _, -, made⟩ := created
  obtain ⟨identity, window, shows⟩ := CredentialAccessDecision.of_construct made
  obtain rfl := Contract.eq_of_create CredentialAccessDecision.lawful made
  exact
    { bindings := rfl
      identity
      lifetime := ⟨window, window, shows, shows, window.le_self, by simp [maxTtlSeconds]⟩ }

/-- The second generation cuts the window of the lease off where the policy's time is over. -/
theorem sound_createRef {boundary : RunnerBoundaryV2} {lease : ExecutionLease}
    {policy : CredentialBrokerPolicyV2} {decisionRevision : String}
    {decision : CredentialAccessDecisionV2}
    (created : CredentialAccessDecisionV2.create sha256 boundary lease policy decisionRevision =
      .ok decision) :
    Sound (.createRef boundary lease policy decisionRevision : CredentialRequest sha256)
      (.v2 decision) := by
  simp only [CredentialAccessDecisionV2.create, bind_eq_ok, raiseIf_eq_ok, orRaise_eq_ok]
    at created
  obtain ⟨_, -, _, -, _, -, _, -, _, -, validFrom, startRead, leaseExpires, stopRead,
    policyExpires, policyEnd, _, ordered, made⟩ := created
  obtain ⟨identity, -⟩ := CredentialAccessDecisionV2.of_construct made
  obtain rfl := Contract.eq_of_create CredentialAccessDecisionV2.lawful made
  obtain ⟨withinLease, withinPolicy⟩ := lt_min_iff.mp (not_le.mp ordered)
  let leased : Window Instant := ⟨validFrom, leaseExpires, withinLease⟩
  have shows : ShowsWindow lease.acquiredAt lease.expiresAt leased :=
    showsWindow_of_required startRead stopRead (not_le.mpr withinLease)
  exact
    { bindings := rfl
      identity
      lifetime := by
        refine ⟨leased, leased.cutAt policyExpires withinPolicy, shows, ⟨shows.1, rfl⟩,
          leased.cutAt_le withinPolicy, ?_⟩
        simp only [maxTtlSeconds, Option.mem_some_iff]
        rintro seconds rfl
        have cut := Instant.le_iff.mp (leased.cutAt_stop_le withinPolicy)
        rw [(Instant.later_eq_some.mp policyEnd)] at cut
        exact cut }

/-- The third generation takes the interval it is given, if the policy allows its length. -/
theorem sound_rollback_iff {leased : RollbackBoundary sha256} {policy : CredentialBrokerPolicyV3}
    {checked : policy.postInit sha256 = .ok ()} {validFrom expiresAt decisionRevision : String}
    {decision : CredentialAccessDecisionV3}
    (created : CredentialAccessDecisionV3.create sha256 leased.boundary policy validFrom expiresAt
      decisionRevision = .ok decision) :
    Sound (.rollback leased policy checked validFrom expiresAt decisionRevision) (.v3 decision) ↔
      leased.lease.acquiredAt ≤ validFrom ∧ expiresAt ≤ leased.lease.expiresAt := by
  simp only [CredentialAccessDecisionV3.create, bind_eq_ok, raiseIf_eq_ok, not_or, not_lt]
    at created
  obtain ⟨start, startRead, stop, stopRead, _, ⟨ordered, short⟩, _, -, _, -, _, -, made⟩ := created
  obtain rfl := Contract.eq_of_create CredentialAccessDecisionV3.lawful made
  have shows : ShowsWindow validFrom expiresAt ⟨start, stop, not_le.mp ordered⟩ :=
    showsWindow_of_required startRead stopRead ordered
  obtain ⟨lease, leaseShows⟩ := ExecutionLease.showsWindow_of_built leased.leaseBuilt
  rw [← shows.le_iff leaseShows]
  constructor
  · rintro ⟨-, -, other, window, otherShows, windowShows, within, -⟩
    rwa [otherShows.unique leaseShows, windowShows.unique shows] at within
  · intro within
    exact
      { bindings := by simp [CredentialDecision.bindings, CredentialRequest.bindings,
          CredentialAccessDecisionV3.contract, leased.ofLease.2]
        identity := rfl
        lifetime := by
          refine ⟨lease, _, leaseShows, shows, within, ?_⟩
          simp only [maxTtlSeconds, Option.mem_some_iff]
          rintro seconds rfl
          omega }

/-- A decision that was created is sound exactly when its request keeps to the lease. -/
theorem sound_iff {request : CredentialRequest sha256} {decision : CredentialDecision}
    (decided : request.decide = .ok decision) :
    request.Sound decision ↔ request.AsksWithinLease := by
  cases request with
  | readOnly boundary lease policy decisionRevision =>
      simp only [decide, bind_eq_ok, pure_eq_ok] at decided
      obtain ⟨made, created, rfl⟩ := decided
      exact iff_of_true (sound_readOnly created) trivial
  | createRef boundary lease policy decisionRevision =>
      simp only [decide, bind_eq_ok, pure_eq_ok] at decided
      obtain ⟨made, created, rfl⟩ := decided
      exact iff_of_true (sound_createRef created) trivial
  | rollback leased policy checked validFrom expiresAt decisionRevision =>
      simp only [decide, bind_eq_ok, pure_eq_ok] at decided
      obtain ⟨made, created, rfl⟩ := decided
      exact sound_rollback_iff created

end CredentialRequest

/-- The claims of a decision, from which it is rebuilt. -/
inductive CredentialClaims where
  | v1 (self : Attributes)
  | v2 (self : Attributes)
  | v3 (self : Attributes)

namespace CredentialClaims

/-- The decision that its constructor builds. -/
def rebuild (sha256 : String → String) : CredentialClaims → Except Raised CredentialDecision
  | .v1 self => do return .v1 (← CredentialAccessDecision.contract.construct sha256 self)
  | .v2 self => do return .v2 (← CredentialAccessDecisionV2.contract.construct sha256 self)
  | .v3 self => do return .v3 (← CredentialAccessDecisionV3.contract.construct sha256 self)

/-- Claims of the third generation show the id that `create` gives their boundary, their policy and
their interval. -/
def ShowsIdentity (sha256 : String → String) : CredentialClaims → Prop
  | .v1 _ => True
  | .v2 _ => True
  | .v3 self => self.text "decision_id" = CredentialAccessDecisionV3.identity sha256
      (self.text "runner_boundary_digest") (self.text "policy_digest") (self.text "valid_from")
      (self.text "expires_at")

/-- A rebuilt decision has the id of its bindings exactly when its claims show it. -/
theorem identity_iff {sha256 : String → String} {claims : CredentialClaims}
    {decision : CredentialDecision} (rebuilt : claims.rebuild sha256 = .ok decision) :
    decision.decisionId = decision.identity sha256 ↔ claims.ShowsIdentity sha256 := by
  cases claims with
  | v1 self =>
      simp only [rebuild, bind_eq_ok, pure_eq_ok] at rebuilt
      obtain ⟨made, built, rfl⟩ := rebuilt
      exact iff_of_true (CredentialAccessDecision.of_construct built).1 trivial
  | v2 self =>
      simp only [rebuild, bind_eq_ok, pure_eq_ok] at rebuilt
      obtain ⟨made, built, rfl⟩ := rebuilt
      exact iff_of_true (CredentialAccessDecisionV2.of_construct built).1 trivial
  | v3 self =>
      simp only [rebuild, bind_eq_ok, pure_eq_ok] at rebuilt
      obtain ⟨made, built, rfl⟩ := rebuilt
      obtain ⟨rfl, -⟩ := Contract.construct_eq_ok.mp built
      exact Iff.rfl

end CredentialClaims

/-- A decision is created for a request or rebuilt from claims. -/
inductive CredentialAttempt (sha256 : String → String) where
  | create (request : CredentialRequest sha256)
  | rebuild (claims : CredentialClaims)

namespace CredentialAttempt

variable {sha256 : String → String}

def run : CredentialAttempt sha256 → Except Raised CredentialDecision
  | .create request => request.decide
  | .rebuild claims => claims.rebuild sha256

/-- A created decision is within its lease and its policy, and every decision has the id of what it
binds. -/
def Meets (decision : CredentialDecision) : CredentialAttempt sha256 → Prop
  | .create request => request.Sound decision
  | .rebuild _ => decision.decisionId = decision.identity sha256

/-- Only the third generation is asked anything: an interval within the lease of its boundary, or
claims that show their id. -/
def Careful : CredentialAttempt sha256 → Prop
  | .create request => request.AsksWithinLease
  | .rebuild claims => claims.ShowsIdentity sha256

end CredentialAttempt

/-- Whatever decision an attempt leads to, it is within its lease under the id of its bindings
exactly when the attempt is careful. -/
theorem credentialDecisions_bounded_iff {sha256 : String → String}
    {attempt : CredentialAttempt sha256} {decision : CredentialDecision}
    (made : attempt.run = .ok decision) : attempt.Meets decision ↔ attempt.Careful := by
  cases attempt with
  | create request => exact CredentialRequest.sound_iff made
  | rebuild claims => exact CredentialClaims.identity_iff made

namespace OutlivingDecision

def newYear : Instant := ⟨63902822400000, by decide⟩

/-- One minute later. -/
def leaseEnd : Instant := ⟨63902822460000, by decide⟩

/-- Ten minutes after the start. -/
def requestedStart : Instant := ⟨63902823000000, by decide⟩

/-- Fifteen minutes after the start. -/
def requestedEnd : Instant := ⟨63902823300000, by decide⟩

variable (sha256 : Sha256)

def someDigest : String := sha256.hexdigest ""

/-- A lease of one minute, without its digest. -/
def leaseDraft : ExecutionLease where
  leaseId := leaseId sha256.hexdigest (someDigest sha256) 1
  dispatchId := someDigest sha256
  admissionId := someDigest sha256
  admissionDigest := someDigest sha256
  executionId := "exec_1"
  workspaceId := "ws_1"
  environment := "staging"
  executionCapsuleDigest := someDigest sha256
  runnerClass := writeRunnerClass
  executionEpoch := 1
  acquiredAt := newYear.isoformat
  expiresAt := leaseEnd.isoformat
  clockWitnessDigest := someDigest sha256
  leaseRevision := "r1"
  leaseDigest := ""

def lease : ExecutionLease :=
  { leaseDraft sha256 with
    leaseDigest := digestOf sha256.hexdigest
      (ExecutionLease.contract.claimsWithoutDigest (leaseDraft sha256)) }

/-- The boundary of the lease, without its digest. -/
def boundaryDraft : RunnerBoundaryV3 where
  runnerId := someDigest sha256
  runnerIdentityDigest := someDigest sha256
  leaseId := (lease sha256).leaseId
  leaseDigest := (lease sha256).leaseDigest
  admissionId := someDigest sha256
  executionId := "exec_1"
  executionEpoch := .int 1
  executionCapsuleDigest := someDigest sha256
  capabilityDefinitionIdentity := someDigest sha256
  rollbackRequirementDigest := someDigest sha256
  conditionContractDigest := someDigest sha256
  verificationContractIdentity := someDigest sha256
  environment := stagingEnvironment
  runnerClass := writeRunnerClass
  credentialClass := githubDeleteRefCredentialClass
  effectCeiling := mutationReversibleEffectClass
  networkEgressDefault := denyAllNetworkDefault
  providerMutationAllowed := .bool true
  maxProviderMutations := .int 1
  temporalModel := readThenDeleteNonAtomic
  boundaryRevision := "r1"
  boundaryDigest := ""

def boundary : RunnerBoundaryV3 :=
  { boundaryDraft sha256 with
    boundaryDigest := digestOf sha256.hexdigest (boundaryDraft sha256).claims }

/-- A policy of five minutes, without its digest. -/
def policyDraft : CredentialBrokerPolicyV3 where
  credentialClass := githubDeleteRefCredentialClass
  provider := githubProvider
  audience := githubApiAudience
  capabilityDefinitionIdentity := someDigest sha256
  rollbackRequirementDigest := someDigest sha256
  environment := stagingEnvironment
  accessMode := writeBoundedAccessMode
  providerOperation := deleteRefOperation
  providerMutationAllowed := .bool true
  maxProviderMutations := .int 1
  maxTtlSeconds := 300
  policyRevision := "r1"
  policyDigest := ""
  ttl_bounded := by decide

def policy : CredentialBrokerPolicyV3 :=
  { policyDraft sha256 with
    policyDigest := digestOf sha256.hexdigest (policyDraft sha256).claims }

theorem boundary_checked : (boundary sha256).postInit sha256.hexdigest = .ok () := by
  have someDigest : IsDigest (someDigest sha256) := sha256.isDigest _
  simp only [RunnerBoundaryV3.postInit, bind_eq_ok, requireDigestFields_eq_ok,
    requireTextFields_eq_ok, raiseIf_eq_ok, not_or, not_not]
  refine ⟨(), ?digests, (), ?texts, (), rfl, (), ⟨rfl, rfl⟩, (), rfl, (), rfl, (), rfl, (),
    ⟨rfl, fun never => Bool.noConfusion never⟩, (), rfl, rfl⟩
  case digests =>
    simp only [List.forall_mem_cons]
    exact ⟨someDigest, someDigest, sha256.isDigest _, sha256.isDigest _, someDigest, someDigest,
      someDigest, someDigest, someDigest, someDigest, sha256.isDigest _, List.forall_mem_nil _⟩
  case texts =>
    simp only [List.forall_mem_cons]
    exact ⟨(by decide : ValidText "exec_1"), (by decide : ValidText stagingEnvironment),
      (by decide : ValidText writeRunnerClass),
      (by decide : ValidText githubDeleteRefCredentialClass),
      (by decide : ValidText mutationReversibleEffectClass),
      (by decide : ValidText denyAllNetworkDefault),
      (by decide : ValidText readThenDeleteNonAtomic),
      (by decide : ValidText "r1"), List.forall_mem_nil _⟩

theorem policy_checked : (policy sha256).postInit sha256.hexdigest = .ok () := by
  have someDigest : IsDigest (someDigest sha256) := sha256.isDigest _
  simp only [CredentialBrokerPolicyV3.postInit, bind_eq_ok, requireDigestFields_eq_ok,
    raiseIf_eq_ok, not_or, not_not, requireText_eq_ok]
  refine ⟨(), ?_, (), ⟨rfl, rfl, rfl⟩, (), ⟨rfl, rfl, rfl⟩, (),
    ⟨rfl, fun never => Bool.noConfusion never⟩, "r1", ⟨rfl, by decide⟩, rfl⟩
  simp only [List.forall_mem_cons]
  exact ⟨someDigest, someDigest, sha256.isDigest _, List.forall_mem_nil _⟩

theorem requireTimestamp_isoformat {instant : Instant} (valid : ValidText instant.isoformat)
    (field : String) : requireTimestamp (.str instant.isoformat) field = .ok instant :=
  requireTimestamp_eq_ok.mpr ⟨rfl, valid⟩

theorem validText_newYear : ValidText newYear.isoformat := by decide

theorem validText_leaseEnd : ValidText leaseEnd.isoformat := by decide

theorem validText_requestedStart : ValidText requestedStart.isoformat := by decide

theorem validText_requestedEnd : ValidText requestedEnd.isoformat := by decide

theorem digest_passes (text : String) :
    ValidText (sha256.hexdigest text) ∧ IsDigest (sha256.hexdigest text) :=
  ⟨validText_of_isDigest (sha256.isDigest _), sha256.isDigest _⟩

theorem lease_created :
    ExecutionLease.contract.create sha256.hexdigest (leaseDraft sha256) = .ok (lease sha256) := by
  have someDigest : ValidText (someDigest sha256) ∧ IsDigest (someDigest sha256) :=
    digest_passes sha256 _
  have own (text : String) := digest_passes sha256 text
  refine Contract.create_of_holds ExecutionLease.lawful (leaseDraft sha256)
    (lease sha256).leaseDigest rfl (fun self reads => ?_) ?_
  · simp only [ExecutionLease.contract, Contract.fieldsWith, Contract.claimFields,
      ExecutionLease.claims, List.cons_append, List.nil_append, List.forall_mem_cons] at reads
    simp only [ExecutionLease.contract, requireTexts, requireDigests, requireEpochOf, List.map_cons,
      List.map_nil, List.cons_append, List.nil_append, List.forall_mem_cons, AttributeCheck.Holds,
      Attributes.text, Attributes.int, Json.text?, reads, Option.getD_some, true_and]
    exact ⟨(by decide : ValidText "exec_1"), (by decide : ValidText "ws_1"),
      (by decide : ValidText "staging"), (by decide : ValidText writeRunnerClass),
      (by decide : ValidText "r1"), own _, someDigest, someDigest, someDigest, someDigest,
      someDigest, own _, Int.le_refl 1, validText_newYear, validText_leaseEnd,
      List.forall_mem_nil _⟩
  · simp only [ExecutionLease.contract, bind_eq_ok, raiseIf_eq_ok]
    exact ⟨newYear, requireTimestamp_isoformat validText_newYear _, leaseEnd,
      requireTimestamp_isoformat validText_leaseEnd _, (), by decide, (), by decide, fun other =>
      other rfl⟩

def leased : RollbackBoundary sha256.hexdigest where
  boundary := boundary sha256
  lease := lease sha256
  checked := boundary_checked sha256
  leaseBuilt := ⟨_, lease_created sha256⟩
  ofLease := ⟨rfl, rfl⟩

/-- The request for five minutes that begin after the lease has ended. -/
def request : CredentialRequest sha256.hexdigest :=
  .rollback (leased sha256) (policy sha256) (policy_checked sha256) requestedStart.isoformat
    requestedEnd.isoformat "r1"

/-- The decision for the request, without its digest. -/
def decisionDraft : CredentialAccessDecisionV3 where
  decisionId := CredentialAccessDecisionV3.identity sha256.hexdigest
    (boundary sha256).boundaryDigest (policy sha256).policyDigest requestedStart.isoformat
    requestedEnd.isoformat
  runnerBoundaryDigest := (boundary sha256).boundaryDigest
  runnerId := someDigest sha256
  runnerIdentityDigest := someDigest sha256
  leaseId := (lease sha256).leaseId
  leaseDigest := (lease sha256).leaseDigest
  executionId := "exec_1"
  executionEpoch := .int 1
  executionCapsuleDigest := someDigest sha256
  capabilityDefinitionIdentity := someDigest sha256
  rollbackRequirementDigest := someDigest sha256
  credentialClass := githubDeleteRefCredentialClass
  provider := githubProvider
  audience := githubApiAudience
  environment := stagingEnvironment
  accessMode := writeBoundedAccessMode
  providerOperation := deleteRefOperation
  providerMutationAllowed := .bool true
  maxProviderMutations := .int 1
  validFrom := requestedStart.isoformat
  expiresAt := requestedEnd.isoformat
  policyDigest := (policy sha256).policyDigest
  policyRevision := "r1"
  decisionRevision := "r1"
  decisionDigest := ""

def decision : CredentialAccessDecisionV3 :=
  { decisionDraft sha256 with
    decisionDigest := digestOf sha256.hexdigest
      (CredentialAccessDecisionV3.contract.claimsWithoutDigest (decisionDraft sha256)) }

theorem decision_created : CredentialAccessDecisionV3.contract.create sha256.hexdigest
    (decisionDraft sha256) = .ok (decision sha256) := by
  have someDigest : ValidText (someDigest sha256) ∧ IsDigest (someDigest sha256) :=
    digest_passes sha256 _
  have own (text : String) := digest_passes sha256 text
  refine Contract.create_of_holds CredentialAccessDecisionV3.lawful (decisionDraft sha256)
    (decision sha256).decisionDigest rfl (fun self reads => ?_) ?_
  · simp only [CredentialAccessDecisionV3.contract, Contract.fieldsWith, Contract.claimFields,
      CredentialAccessDecisionV3.claims, List.cons_append, List.nil_append, List.forall_mem_cons]
      at reads
    simp only [CredentialAccessDecisionV3.contract, requireTexts, requireDigests,
      uncheckedAttribute, List.map_cons, List.map_nil, List.cons_append, List.nil_append,
      List.forall_mem_cons, AttributeCheck.Holds, Attributes.text, Json.text?, reads,
      Option.getD_some, true_and]
    exact ⟨own _, own _, someDigest, someDigest, own _, own _, someDigest, someDigest, someDigest,
      own _, own _, (by decide : ValidText "exec_1"),
      (by decide : ValidText githubDeleteRefCredentialClass),
      (by decide : ValidText githubProvider),
      (by decide : ValidText githubApiAudience), (by decide : ValidText stagingEnvironment),
      (by decide : ValidText writeBoundedAccessMode), (by decide : ValidText deleteRefOperation),
      (by decide : ValidText "r1"), (by decide : ValidText "r1"), rfl,
      ⟨validText_requestedStart, requestedStart, rfl⟩, ⟨validText_requestedEnd, requestedEnd, rfl⟩,
      List.forall_mem_nil _⟩
  · simp only [CredentialAccessDecisionV3.contract, bind_eq_ok, raiseIf_eq_ok, not_or, not_not]
    exact ⟨requestedStart, requireTimestamp_isoformat validText_requestedStart _, requestedEnd,
      requireTimestamp_isoformat validText_requestedEnd _, (), by decide, (), ⟨rfl, rfl, rfl⟩, (),
      ⟨rfl, rfl, rfl⟩, rfl, fun never => Bool.noConfusion never⟩

theorem request_decided : (request sha256).decide = .ok (.v3 (decision sha256)) := by
  simp only [request, CredentialRequest.decide, CredentialAccessDecisionV3.create, bind_eq_ok,
    raiseIf_eq_ok, pure_eq_ok, not_or, not_not]
  exact ⟨_, ⟨requestedStart, requireTimestamp_isoformat validText_requestedStart _, requestedEnd,
    requireTimestamp_isoformat validText_requestedEnd _, (),
    ⟨by decide, (by decide : ¬(300000 > 300 * 1000))⟩, (), ⟨rfl, rfl⟩, (), rfl, "r1",
    requireText_eq_ok.mpr ⟨rfl, by decide⟩, decision_created sha256⟩, rfl⟩

theorem request_asks_more : ¬(request sha256).AsksWithinLease := by
  rintro ⟨-, ends⟩
  have inTime := Instant.isoformat_le_isoformat.mp ends
  exact absurd inTime (by decide)

end OutlivingDecision

/-- Whatever the digest function, some decision of the third generation outlives its lease. -/
theorem credential_outlives_lease : ¬∃ sha256 : Sha256,
    ∀ (attempt : CredentialAttempt sha256.hexdigest) (decision : CredentialDecision),
      attempt.run = .ok decision → attempt.Meets decision := by
  rintro ⟨sha256, meets⟩
  have decided := OutlivingDecision.request_decided sha256
  exact OutlivingDecision.request_asks_more sha256
    ((CredentialRequest.sound_iff decided).mp (meets (.create _) _ decided))

theorem credentialDecisions_bounded_iff_outliving :
    (CredentialAttempt.create (OutlivingDecision.request sampleDigest)).Meets
        (.v3 (OutlivingDecision.decision sampleDigest)) ↔
      (CredentialAttempt.create (OutlivingDecision.request sampleDigest)).Careful :=
  credentialDecisions_bounded_iff (OutlivingDecision.request_decided sampleDigest)

end VoodooOne
