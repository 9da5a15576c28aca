import VoodooOne.Authorization.AuthorityChains
import VoodooOne.Authorization.AuthorityEvidence
import VoodooOne.Dispatch.Services

/-!
# Validity of grants

The validity of a grant lies within that of the authority it is issued for, which lies within the
validity of every approval that was counted.  A grant is consumed while it is valid.
-/

namespace VoodooOne

open Calendar

structure ExecutionBinding where
  (capabilityDefinitionIdentity environment targetKind executionCapsuleDigest : String)
  (runnerClass authorityRevision bindingDigest : String)
deriving DecidableEq, Repr

/-- What a grant records of a `PreconditionWitness`. -/
structure RecordedWitness where
  (requirementDigest expectationDigest observationDigest witnessDigest : String)
  (enforcementClass checkedAt : String)
deriving DecidableEq, Repr

/-- `AuthoritativeGrantIssuer`, with the conditions that its constructor checks. -/
structure AuthoritativeGrantIssuer where
  trustedClock : TrustedClockAuthority
  (issuerIdentity issuerRevision : String)
  grantTtlSeconds : Nat
  texts : ValidText issuerIdentity ∧ ValidText issuerRevision
  ttl : 1 ≤ grantTtlSeconds ∧ grantTtlSeconds ≤ maxGrantTtlSeconds

/-- What one call meets: the database at the first and at the second reading, and the answers of the
authorities.  A binding of `none` is an answer that is no binding. -/
structure IssuerSurroundings where
  (first second : Database)
  currentEpoch : RevocationEpochAuthority
  resolveBinding : String → String → String → Except Raised (Option ExecutionBinding)
  precondition : AuthorityScope → AuthorityConstraint → MonotonicAuthorityDecision →
    ExecutionTarget → Except Raised RecordedWitness
  reading : ClockReading
  (grantId jti : String)

namespace AuthoritativeGrantIssuer

/-- `_deny`. -/
def denied (reason : String) : Raised := ⟨.grantIssuanceDenied, reason⟩

variable (issuer : AuthoritativeGrantIssuer) (sha256 : String → String)
  (surroundings : IssuerSurroundings)

/-- The monotonic check, with its violation as a denial. -/
def monotonicDecision (parent : AuthorityScope) (authority : AuthorityConstraint) :
    Except Raised MonotonicAuthorityDecision :=
  match MonotonicAuthorityChecker.check sha256 parent authority with
  | .ok decision => .ok decision
  | .error (.denied _) => .error (denied "MONOTONIC_AUTHORITY_DENIED")
  | .error (.invalid error) => .error error

def liveRevocationEpoch (db : Database) (snapshot : AuthorizationSnapshot) : Except Raised Int := do
  let answer ← catching authorityErrors (denied "REVOCATION_AUTHORITY_DENIED")
    (surroundings.currentEpoch db snapshot.workspaceId snapshot.environment
      snapshot.capabilityDefinitionIdentity)
  DurableGrantService.epochAnswer (denied "REVOCATION_EPOCH_INVALID") answer

def assertLiveAuthority (db : Database) (snapshot : AuthorizationSnapshot)
    (evidence : Option SnapshotAuthorityEvidence) :
    Except Raised (SnapshotAuthorityEvidence × Int) := do
  raiseIf (db.emergencyStopActive = true) (denied "EMERGENCY_STOP_ACTIVE")
  let resolvedEvidence ← match evidence with
    | some evidence => .ok evidence
    | none => SnapshotAuthorityEvidence.load sha256 db snapshot
  let liveEpoch ← liveRevocationEpoch surroundings db snapshot
  raiseIf (liveEpoch ≠ resolvedEvidence.revocationEpoch) (denied "REVOCATION_EPOCH_CHANGED")
  return (resolvedEvidence, liveEpoch)

def resolveExecutionBinding (snapshot : AuthorizationSnapshot) :
    Except Raised ExecutionBinding := do
  let answer ← catching authorityErrors (denied "EXECUTION_BINDING_DENIED")
    (surroundings.resolveBinding snapshot.capabilityDefinitionIdentity snapshot.environment
      snapshot.targetKind)
  let binding ← orRaise (denied "EXECUTION_BINDING_INVALID") answer
  raiseIf ([binding.capabilityDefinitionIdentity, binding.environment, binding.targetKind] ≠
      [snapshot.capabilityDefinitionIdentity, snapshot.environment, snapshot.targetKind])
    (denied "EXECUTION_BINDING_MISMATCH")
  return binding

/-- `_resolve_validity`: the moments of issue and of expiry. -/
def resolveValidity (environment : String) (authority : AuthorityConstraint)
    (witness : RecordedWitness) : Except Raised (Instant × Instant) := do
  let clockWitness ← catching authorityErrors (denied "TRUSTED_CLOCK_DENIED")
    (issuer.trustedClock.witness sha256 environment surroundings.reading)
  raiseIf (clockWitness.sourceIdentity ≠ issuer.trustedClock.sourceIdentity)
    (denied "TRUSTED_CLOCK_BINDING_MISMATCH")
  let issued ← requireTimestamp (.str clockWitness.observedAt) "issued_at"
  let checkedAt ← requireTimestamp (.str witness.checkedAt) "precondition_checked_at"
  let authorityStart ← requireTimestamp (.str authority.validFrom) "authority.valid_from"
  let authorityEnd ← requireTimestamp (.str authority.validUntil) "authority.valid_until"
  raiseIf (issued < checkedAt) (denied "ISSUANCE_PRECEDES_PRECONDITION")
  raiseIf (issued.milliseconds - checkedAt.milliseconds > maxPreconditionToGrantSeconds * 1000)
    (denied "PRECONDITION_WITNESS_STALE")
  raiseIf (issued < authorityStart ∨ authorityEnd ≤ issued)
    (denied "AUTHORITY_NOT_VALID_AT_ISSUANCE")
  let deadline ← orRaise ⟨.overflowError, "date value out of range"⟩
    (issued.later (issuer.grantTtlSeconds * 1000))
  let expiry := min deadline authorityEnd
  raiseIf (expiry ≤ issued) (denied "AUTHORITY_EXPIRES_BEFORE_GRANT")
  return (issued, expiry)

def claims (snapshot : AuthorizationSnapshot) (authority : AuthorityConstraint)
    (parent : AuthorityScope) (decision : MonotonicAuthorityDecision)
    (evidence : SnapshotAuthorityEvidence) (binding : ExecutionBinding)
    (witness : RecordedWitness) (validity : Instant × Instant) (liveEpoch : Int) :
    ExecutionGrantV2 where
  grantId := surroundings.grantId
  jti := surroundings.jti
  executionId := snapshot.executionId
  requestId := snapshot.requestId
  authorizationSnapshotDigest := snapshot.snapshotDigest
  snapshotAuthorityWitnessSetDigest := evidence.authorityWitnessSetDigest
  snapshotAuthorityEventHash := evidence.eventHash
  parentScopeDigest := parent.scopeDigest
  authorityConstraintDigest := authority.constraintDigest
  monotonicAuthorityDecisionDigest := decision.decisionDigest
  actorId := authority.actorId
  workspaceId := authority.workspaceId
  environment := authority.environment
  capability := authority.capability
  capabilityDefinitionIdentity := authority.capabilityDefinitionIdentity
  targetKind := authority.targetKind
  targetDigest := authority.targetDigest
  payloadDigest := authority.payloadDigest
  policyVersion := authority.policyVersion
  policyIdentity := authority.policyIdentity
  approvalSetDigest := authority.approvalSetDigest
  requiredPermission := authority.requiredPermission
  preconditionRequirementDigest := witness.requirementDigest
  preconditionExpectationDigest := witness.expectationDigest
  preconditionObservationDigest := witness.observationDigest
  preconditionWitnessDigest := witness.witnessDigest
  preconditionEnforcementClass := witness.enforcementClass
  preconditionCheckedAt := witness.checkedAt
  executionBindingDigest := binding.bindingDigest
  executionCapsuleDigest := binding.executionCapsuleDigest
  runnerClass := binding.runnerClass
  executionBindingAuthorityRevision := binding.authorityRevision
  issuedAt := validity.1.isoformat
  expiresAt := validity.2.isoformat
  revocationEpoch := liveEpoch
  useSemantics := oneTimeUse
  issuerIdentity := issuer.issuerIdentity
  issuerRevision := issuer.issuerRevision
  grantDigest := ""

def issue (snapshot : AuthorizationSnapshot) (authority : AuthorityConstraint) :
    Except Raised ExecutionGrantV2 := do
  let parent ← AuthorityScope.fromSnapshot sha256 snapshot
  let decision ← monotonicDecision sha256 parent authority
  let (evidence, _) ← assertLiveAuthority sha256 surroundings surroundings.first snapshot none
  let binding ← resolveExecutionBinding surroundings snapshot
  let witness ← catching authorityErrors (denied "PRECONDITION_DENIED")
    (surroundings.precondition parent authority decision snapshot.executionTarget)
  let validity ← issuer.resolveValidity sha256 surroundings snapshot.environment authority witness
  let (_, liveEpoch) ← assertLiveAuthority sha256 surroundings surroundings.second snapshot
    (some evidence)
  ExecutionGrantV2.issue sha256 (issuer.claims surroundings snapshot authority parent decision
    evidence binding witness validity liveEpoch)

variable {issuer sha256 surroundings}

theorem resolveValidity_eq_ok {environment : String} {authority : AuthorityConstraint}
    {witness : RecordedWitness} {issued expires : Instant} {window : Window Instant}
    (spans : authority.Spans window)
    (resolved : issuer.resolveValidity sha256 surroundings environment authority witness =
      .ok (issued, expires)) :
    (∃ checkedAt : Instant, witness.checkedAt = checkedAt.isoformat ∧ checkedAt ≤ issued ∧
      issued.milliseconds ≤ checkedAt.milliseconds + maxPreconditionToGrantSeconds * 1000) ∧
    window.start ≤ issued ∧ issued < expires ∧ expires ≤ window.stop ∧
      expires.milliseconds ≤ issued.milliseconds + issuer.grantTtlSeconds * 1000 := by
  simp only [resolveValidity, bind_eq_ok, requireTimestamp_eq_ok, raiseIf_eq_ok, orRaise_eq_ok,
    Instant.later_eq_some, pure_eq_ok, Prod.mk.injEq, Json.str.injEq, not_or, not_lt, not_le]
    at resolved
  obtain ⟨_, -, _, -, moment, -, checkedAt, ⟨isChecked, -⟩, start, ⟨isStart, -⟩, stop,
    ⟨isStop, -⟩, _, notBefore, _, fresh, _, ⟨started, -⟩, deadline, isDeadline, _, positive, rfl,
    rfl⟩ := resolved
  obtain rfl := Instant.isoformat_injective (isStart.symm.trans spans.validFrom.1)
  obtain rfl := Instant.isoformat_injective (isStop.symm.trans spans.validUntil.1)
  have withinTtl : (min deadline window.stop).milliseconds ≤ deadline.milliseconds :=
    Instant.le_iff.mp (min_le_left _ _)
  refine ⟨⟨checkedAt, isChecked, notBefore, by omega⟩, started, positive, min_le_right _ _, ?_⟩
  rw [← isDeadline]
  exact withinTtl

end AuthoritativeGrantIssuer

theorem deadline_of_approvalOf {request : ChangeRequestRow} {reviewDigest : String}
    {policy : PolicyRevision} {authorizationTime : Instant} {row : ApprovalRow}
    {approval : ApprovalRecord × Instant}
    (loaded : approvalOf request reviewDigest policy authorizationTime row = .ok approval) :
    ∃ createdAt : Instant, row.createdAt = createdAt.isoformat ∧ approval.2.milliseconds =
        createdAt.milliseconds + policy.approvalValiditySeconds * 1000 := by
  simp only [approvalOf, canonicalDatetime, bind_eq_ok, orRaise_eq_ok, pure_eq_ok,
    Instant.ofIsoformat?_eq_some, Instant.later_eq_some] at loaded
  obtain ⟨_, -, _, -, _, -, createdAt, isCreated, _, -, _, -, deadline, isDeadline, rfl⟩ := loaded
  exact ⟨createdAt, isCreated.symm, isDeadline⟩

theorem mem_of_mapM_approvalOf {request : ChangeRequestRow} {reviewDigest : String}
    {policy : PolicyRevision} {authorizationTime : Instant} {rows : List ApprovalRow}
    {approvals : List (ApprovalRecord × Instant)}
    (loaded : rows.mapM (approvalOf request reviewDigest policy authorizationTime) =
      .ok approvals) : ∀ row ∈ rows, ∃ approval ∈ approvals,
        approvalOf request reviewDigest policy authorizationTime row = .ok approval := by
  induction rows generalizing approvals with
  | nil => exact List.forall_mem_nil _
  | cons row rows induction =>
      simp only [List.mapM_cons, bind_eq_ok, pure_eq_ok] at loaded
      obtain ⟨first, one, rest, others, rfl⟩ := loaded
      refine List.forall_mem_cons.mpr ⟨⟨first, List.mem_cons_self .., one⟩, fun other member => ?_⟩
      obtain ⟨approval, there, same⟩ := induction others other member
      exact ⟨approval, List.mem_cons_of_mem _ there, same⟩

theorem validUntil_le_of_loadApprovalEvidence {sha256 : String → String} {db : Database}
    {requestId capability : String} {target : ExecutionTarget} {policy : PolicyRevision}
    {clockWitness : ClockWitness} {evidence : ApprovalEvidenceSet}
    (loaded : loadApprovalEvidence sha256 db requestId capability target policy clockWitness =
      .ok evidence) :
    ∃ validUntil : Instant, evidence.approvalValidUntil = validUntil.isoformat ∧
      ∀ row ∈ db.selectApprovalEvidence requestId, ∃ createdAt : Instant,
        row.createdAt = createdAt.isoformat ∧ validUntil.milliseconds ≤
          createdAt.milliseconds + policy.approvalValiditySeconds * 1000 := by
  simp only [loadApprovalEvidence, bind_eq_ok, orRaise_eq_ok] at loaded
  obtain ⟨_, -, _, -, _, -, _, -, _, -, _, -, _, -, _, -, _, -, approvals, loadedAll, _, -, _, -,
    validUntil, least, _, -, created⟩ := loaded
  obtain ⟨fields, -, -⟩ := ApprovalEvidenceSet.create_eq_ok.mp created
  have shown := fields ("approval_valid_until", .str evidence.approvalValidUntil)
    (by simp [ApprovalEvidenceSet.textFields])
  change (Json.object _).get ("approval_valid_until", Json.str validUntil.isoformat).1 = _ at shown
  rw [Json.get_object_of_mem (by simp) (by simp)] at shown
  refine ⟨validUntil, (Json.str.inj shown).symm, fun row member => ?_⟩
  obtain ⟨approval, there, one⟩ := mem_of_mapM_approvalOf loadedAll row member
  obtain ⟨createdAt, isCreated, deadline⟩ := deadline_of_approvalOf one
  have before : validUntil ≤ approval.2 :=
    (List.min?_eq_some_iff.mp least).2 _ (List.mem_map_of_mem there)
  exact ⟨createdAt, isCreated, deadline ▸ Instant.le_iff.mp before⟩

/-- A grant that was issued for an authorization and a constraint on its authority. -/
structure GrantIssuance (sha256 : String → String) where
  creator : AuthoritativeSnapshotCreator sha256
  surroundings : SnapshotSurroundings
  (actorId requestId : String)
  db : Database
  authorization : AuthoritativeSnapshotCreator.Authorization
  authorized : creator.authorize surroundings actorId requestId db = .ok authorization
  issuer : AuthoritativeGrantIssuer
  issue : IssuerSurroundings
  authority : AuthorityConstraint
  built : AuthorityConstraint.contract.Built sha256 authority
  grant : ExecutionGrantV2
  issued : issuer.issue sha256 issue authorization.snapshot authority = .ok grant

structure GrantMoments where
  (authorizedAt checkedAt issuedAt expiresAt authorityEnd approvalEnd : Instant)

variable {sha256 : String → String}

structure GrantIssuance.Shows (issuance : GrantIssuance sha256) (moments : GrantMoments) :
    Prop where
  authorizedAt : issuance.authorization.snapshot.authorizedAt = moments.authorizedAt.isoformat
  checkedAt : issuance.grant.preconditionCheckedAt = moments.checkedAt.isoformat
  issuedAt : issuance.grant.issuedAt = moments.issuedAt.isoformat
  expiresAt : issuance.grant.expiresAt = moments.expiresAt.isoformat
  authorityEnd : issuance.authority.validUntil = moments.authorityEnd.isoformat
  approvalEnd :
    issuance.authorization.snapshot.approvalValidUntil = moments.approvalEnd.isoformat

/-- Every validity lies within the next wider one. -/
structure GrantMoments.Contained (moments : GrantMoments) (issuance : GrantIssuance sha256) :
    Prop where
  authorized : moments.authorizedAt ≤ moments.issuedAt
  positive : moments.issuedAt < moments.expiresAt
  withinAuthority : moments.expiresAt ≤ moments.authorityEnd
  withinApproval : moments.authorityEnd ≤ moments.approvalEnd
  withinApprovals : ∃ policy, resolvePolicy issuance.creator.policies issuance.creator.policyVersion
    =
      .ok policy ∧ ∀ row ∈ issuance.db.selectApprovalEvidence issuance.requestId,
    ∃ createdAt : Instant, row.createdAt = createdAt.isoformat ∧ moments.approvalEnd.milliseconds ≤
      createdAt.milliseconds + policy.approvalValiditySeconds * 1000
  ttl : moments.expiresAt.milliseconds ≤
    moments.issuedAt.milliseconds + issuance.issuer.grantTtlSeconds * 1000
  maxTtl : moments.expiresAt.milliseconds ≤ moments.issuedAt.milliseconds + 300 * 1000
  checked : moments.checkedAt ≤ moments.issuedAt
  fresh : moments.issuedAt.milliseconds ≤ moments.checkedAt.milliseconds + 30 * 1000

/-- A consumption within the validity of a grant. -/
def GrantMoments.Admits (moments : GrantMoments) (consumedAt : String) : Prop :=
  ∃ moment : Instant, consumedAt = moment.isoformat ∧ moments.issuedAt ≤ moment ∧
    moment < moments.expiresAt

/-- Where the grant is stored, every consumption of it is within its validity. -/
def GrantIssuance.ConsumedIn (issuance : GrantIssuance sha256) (moments : GrantMoments) : Prop :=
  ∀ (db : Database) (stored : ExecutionGrantRow),
    Table.lookup (·.jti) db.executionGrants issuance.grant.jti = some stored →
    stored.grant = issuance.grant.toDict →
    (∀ (service : DurableGrantService) surroundings consumptionId faults witness next,
      service.consume sha256 surroundings consumptionId issuance.grant.jti faults db =
        .ok (witness, next) → moments.Admits witness.consumedAt) ∧
    ∀ (service : DurableDispatchOutboxService) surroundings consumptionId outboxId faults entry
        next,
      service.consumeAndEnqueue sha256 surroundings consumptionId outboxId issuance.grant.jti faults
        db = .ok (entry, next) → ∃ consumption : GrantConsumptionRow,
          next.grantConsumptions = db.grantConsumptions ++ [consumption] ∧
            moments.Admits consumption.consumedAt

namespace GrantIssuance

theorem exists_approvalEnd (issuance : GrantIssuance sha256) : ∃ approvalEnd : Instant,
    issuance.authorization.snapshot.approvalValidUntil = approvalEnd.isoformat ∧
      ∃ policy, resolvePolicy issuance.creator.policies issuance.creator.policyVersion =
        .ok policy ∧
        ∀ row ∈ issuance.db.selectApprovalEvidence issuance.requestId, ∃ createdAt : Instant,
          row.createdAt = createdAt.isoformat ∧ approvalEnd.milliseconds ≤
            createdAt.milliseconds + policy.approvalValiditySeconds * 1000 := by
  have authorized := issuance.authorized
  simp only [AuthoritativeSnapshotCreator.authorize, bind_eq_ok, catching_eq_ok, pure_eq_ok]
    at authorized
  obtain ⟨_, -, _, -, _, -, _, -, _, -, _, -, policy, resolved, _, -, evidence, loaded, _, -, _, -,
    _, -, _, -, snapshot, created, same⟩ := authorized
  obtain ⟨approvalEnd, shown, bounded⟩ := validUntil_le_of_loadApprovalEvidence loaded
  obtain ⟨-, -, sameEvidence, -⟩ := AuthorizationSnapshot.create_eq_ok.mp created
  refine ⟨approvalEnd, ?_, policy, resolved, bounded⟩
  rw [← same, AuthorizationSnapshot.approvalValidUntil, sameEvidence]
  exact shown

theorem exists_window (issuance : GrantIssuance sha256) {parent : AuthorityScope}
    {decision : MonotonicAuthorityDecision}
    (isParent : AuthorityScope.fromSnapshot sha256 issuance.authorization.snapshot = .ok parent)
    (decided : AuthoritativeGrantIssuer.monotonicDecision sha256 parent issuance.authority =
      .ok decision) : ∃ outer inner : Window Instant,
        issuance.authorization.snapshot.authorizedAt = outer.start.isoformat ∧
        issuance.authorization.snapshot.approvalValidUntil = outer.stop.isoformat ∧
        issuance.authority.Spans inner ∧ inner ≤ outer := by
  have built : AuthorityScope.contract.Built sha256 parent := ⟨_, isParent⟩
  obtain ⟨scope, rfl⟩ := exists_parentAuthority built
  obtain ⟨child, same⟩ := exists_childAuthority issuance.built
  have accepted : Accepts scope child := by
    rw [Accepts, same]
    unfold AuthoritativeGrantIssuer.monotonicDecision at decided
    split at decided
    · next accepted => exact ⟨_, accepted⟩
    · cases decided
    · cases decided
  have drafted := Contract.eq_of_create AuthorityScope.lawful isParent
  refine ⟨scope.window, child.window, ?_, ?_, same ▸ child.spans, (accepts_iff.mp accepted).within⟩
  · rw [← scope.spans.validFrom.1, drafted]
    rfl
  · rw [← scope.spans.validUntil.1, drafted]
    rfl

theorem consumedIn (issuance : GrantIssuance sha256) {moments : GrantMoments}
    (shows : issuance.Shows moments) : issuance.ConsumedIn moments := by
  intro db stored found payload
  have read : ExecutionGrantV2.fromDict sha256 stored.grant = .ok issuance.grant := by
    have issued := issuance.issued
    simp only [AuthoritativeGrantIssuer.issue, bind_eq_ok] at issued
    obtain ⟨_, -, _, -, _, -, _, -, _, -, _, -, _, -, created⟩ := issued
    rw [payload]
    exact Contract.fromDict_of_create ExecutionGrantV2.lawful created
  have admitted {service : DurableGrantService} {surroundings : GrantSurroundings}
      {consumptionId : String} {prepared : DurableGrantService.Prepared}
      (isPrepared : service.prepare sha256 surroundings consumptionId issuance.grant.jti db =
        .ok prepared) : moments.Admits prepared.witness.consumedAt := by
    simp only [DurableGrantService.prepare, bind_eq_ok, requireText_eq_ok, Json.str.injEq,
      orRaise_eq_ok, pure_eq_ok] at isPrepared
    obtain ⟨_, ⟨rfl, -⟩, _, -, row, isRow, grant, decoded, clockWitness, -, epoch, passed,
      conformance, -, witness, created, rfl⟩ := isPrepared
    obtain rfl : stored = row := Option.some.inj (found.symm.trans isRow)
    obtain rfl : issuance.grant = grant := Except.ok.inj
      (read.symm.trans (DurableGrantService.decodeStoredGrant_eq_ok decoded).1)
    obtain ⟨digest, rfl⟩ := GrantConsumptionWitness.create_eq_ok created
    obtain ⟨now, issued, expires, observed, isIssued, isExpiry, after, before⟩ :=
      (DurableGrantService.assertLiveAuthority_eq_ok passed).inForce
    rw [Instant.ofIsoformat?_eq_some] at observed isIssued isExpiry
    obtain rfl := Instant.isoformat_injective (isIssued.trans shows.issuedAt)
    obtain rfl := Instant.isoformat_injective (isExpiry.trans shows.expiresAt)
    exact ⟨now, observed.symm, after, before⟩
  refine ⟨?_, ?_⟩
  · intro service surroundings consumptionId faults witness next consumed
    simp only [DurableGrantService.consume, bind_eq_ok, pure_eq_ok, Prod.mk.injEq] at consumed
    obtain ⟨prepared, isPrepared, _, -, _, -, rfl, -⟩ := consumed
    exact admitted isPrepared
  · intro service surroundings consumptionId outboxId faults entry next enqueued
    simp only [DurableDispatchOutboxService.consumeAndEnqueue, bind_eq_ok, catching_eq_ok,
      pure_eq_ok, Prod.mk.injEq] at enqueued
    obtain ⟨prepared, isPrepared, _, -, consumed, recorded, _, ⟨_, _, inserted⟩, _, -, -, rfl⟩ :=
      enqueued
    obtain ⟨rfl, -⟩ := DurableGrantService.recordConsumption_eq_ok recorded
    obtain ⟨rfl, -⟩ := Database.insertDispatchOutbox_eq_ok inserted
    exact ⟨prepared.row, rfl, admitted isPrepared⟩

end GrantIssuance

/-- A grant is valid within its authority, its authority within its approvals, and it is consumed
while it is valid. -/
theorem grant_validity_contained {sha256 : String → String} (issuance : GrantIssuance sha256) :
    ∃ moments : GrantMoments, issuance.Shows moments ∧ moments.Contained issuance ∧
      issuance.ConsumedIn moments := by
  have issued := issuance.issued
  simp only [AuthoritativeGrantIssuer.issue, bind_eq_ok, catching_eq_ok] at issued
  obtain ⟨parent, isParent, decision, decided, _, -, _, -, witness, -, ⟨issuedAt, expiresAt⟩,
    resolved, _, -, created⟩ := issued
  obtain ⟨outer, inner, isStart, isStop, spans, within⟩ := issuance.exists_window isParent decided
  obtain ⟨approvalEnd, isApprovalEnd, policies⟩ := issuance.exists_approvalEnd
  obtain rfl := Instant.isoformat_injective (isStop.symm.trans isApprovalEnd)
  obtain ⟨⟨checkedAt, isChecked, checked, fresh⟩, started, positive, withinAuthority, ttl⟩ :=
    AuthoritativeGrantIssuer.resolveValidity_eq_ok spans resolved
  have drafted := Contract.eq_of_create ExecutionGrantV2.lawful created
  let moments : GrantMoments :=
    ⟨outer.start, checkedAt, issuedAt, expiresAt, inner.stop, outer.stop⟩
  have shows : issuance.Shows moments :=
    { authorizedAt := isStart
      checkedAt := by
        rw [drafted]
        exact isChecked
      issuedAt := by rw [drafted]; rfl
      expiresAt := by rw [drafted]; rfl
      authorityEnd := spans.validUntil.1
      approvalEnd := isStop }
  have configured : issuance.issuer.grantTtlSeconds * 1000 ≤ 300 * 1000 :=
    Nat.mul_le_mul_right 1000 issuance.issuer.ttl.2
  exact ⟨moments, shows,
    { authorized := (Window.le_iff.mp within).1.trans started
      positive
      withinAuthority
      withinApproval := (Window.le_iff.mp within).2
      withinApprovals := policies
      ttl
      maxTtl := ttl.trans (Nat.add_le_add_left configured _)
      checked
      fresh }, issuance.consumedIn shows⟩

end VoodooOne
