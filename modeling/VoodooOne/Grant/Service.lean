import VoodooOne.Authority.Permission
import VoodooOne.Library.Transaction
import VoodooOne.Schema.Grants

/-!
# Durable grants

A grant is stored once and consumed once.  Both calls check the live authority inside the write
transaction that they commit: clock, emergency stop, permission and revocation epoch.
-/

namespace VoodooOne

open Calendar

def ExecutionGrantV2.row (grant : ExecutionGrantV2) (conformance : ExecutionConformanceWitness)
    (clockWitness : ClockWitness) (revocationEpoch : Int) (storeRevision : String) :
    ExecutionGrantRow where
  jti := grant.jti
  grantId := grant.grantId
  executionId := grant.executionId
  requestId := grant.requestId
  workspaceId := grant.workspaceId
  environment := grant.environment
  authorizationSnapshotDigest := grant.authorizationSnapshotDigest
  executionCapsuleDigest := grant.executionCapsuleDigest
  grantDigest := grant.grantDigest
  grant := grant.toDict
  issuanceConformanceWitnessDigest := conformance.witnessDigest
  issuanceConformanceWitness := conformance.toDict
  storeClockWitnessDigest := clockWitness.witnessDigest
  storeClockWitness := clockWitness.toDict
  issuedAt := grant.issuedAt
  expiresAt := grant.expiresAt
  revocationEpoch
  storedAt := clockWitness.observedAt
  storeRevision

def GrantConsumptionWitness.row (witness : GrantConsumptionWitness) (grant : ExecutionGrantV2)
    (conformance : ExecutionConformanceWitness) (clockWitness : ClockWitness)
    (liveEpoch : Int) : GrantConsumptionRow where
  consumptionId := witness.consumptionId
  jti := grant.jti
  grantDigest := grant.grantDigest
  executionId := grant.executionId
  authorizationSnapshotDigest := grant.authorizationSnapshotDigest
  executionCapsuleDigest := grant.executionCapsuleDigest
  runnerClass := grant.runnerClass
  conformanceWitnessDigest := conformance.witnessDigest
  conformanceWitness := conformance.toDict
  clockWitnessDigest := clockWitness.witnessDigest
  clockWitness := clockWitness.toDict
  liveRevocationEpoch := liveEpoch
  consumedAt := witness.consumedAt
  serializationContract := witness.serializationContract
  authorityRevision := witness.authorityRevision
  consumptionDigest := witness.witnessDigest
  consumption := witness.toDict

/-- `GrantRevocationEpochAuthority.current_epoch`: its answer for a workspace, an environment and
a capability definition. -/
abbrev RevocationEpochAuthority := Database → String → String → String → Except Raised Json

/-- `ExecutionConformanceAuthority.evaluate`; `none` is an answer that is no witness. -/
abbrev ConformanceAuthority := ExecutionGrantV2 → Except Raised (Option ExecutionConformanceWitness)

def authorityErrors : List ExceptionClass :=
  [.lookupError, .permissionError, .runtimeError, .typeError, .valueError]

/-- What one call meets outside the database. -/
structure GrantSurroundings where
  /-- Reading of the trusted clock. -/
  reading : ClockReading
  currentEpoch : RevocationEpochAuthority
  conformance : ConformanceAuthority

/-- `DurableGrantService`, with the condition its constructor checks. -/
structure DurableGrantService where
  trustedClock : TrustedClockAuthority
  authorityRevision : String
  revision : ValidText authorityRevision

namespace DurableGrantService

variable (service : DurableGrantService) (sha256 : String → String)
  (surroundings : GrantSurroundings)

/-- `_deny`. -/
def denied (reason : String) : Raised := ⟨.grantConsumptionDenied, reason⟩

def trustedClockWitness (grant : ExecutionGrantV2) : Except Raised ClockWitness := do
  let witness ← catching authorityErrors (denied "TRUSTED_CLOCK_DENIED")
    (service.trustedClock.witness sha256 grant.environment surroundings.reading)
  raiseIf (witness.sourceIdentity ≠ service.trustedClock.sourceIdentity)
    (denied "TRUSTED_CLOCK_BINDING_MISMATCH")
  return witness

def livePermissionAuthorityRevision : String := "database-permission/durable-grant-live-r1"

def permissionQuery (grant : ExecutionGrantV2) : PermissionQuery :=
  ⟨grant.actorId, grant.workspaceId, grant.environment, grant.requiredPermission⟩

def assertLivePermission (db : Database) (grant : ExecutionGrantV2) : Except Raised Unit := do
  raiseIf (grant.requiredPermission ≠ requiredExecutionPermission)
    (denied "GRANT_PERMISSION_INVALID")
  let query := permissionQuery grant
  query.postInit
  let decision ← catching authorityErrors (denied "EXECUTION_PERMISSION_DENIED")
    (db.decideDatabasePermission sha256 query livePermissionAuthorityRevision)
  raiseIf ([decision.actorId, decision.workspaceId, decision.environment, decision.permission] ≠
      [grant.actorId, grant.workspaceId, grant.environment, grant.requiredPermission])
    (denied "EXECUTION_PERMISSION_BINDING_MISMATCH")
  raiseIf (decision.granted = false) (denied "EXECUTION_PERMISSION_DENIED")

/-- The answer of the revocation authority must be a non-negative integer. -/
def epochAnswer (invalid : Raised) : Json → Except Raised Int
  | .int epoch => if epoch < 0 then .error invalid else .ok epoch
  | _ => .error invalid

def assertLiveAuthority (db : Database) (grant : ExecutionGrantV2) (clockWitness : ClockWitness) :
    Except Raised Int := do
  let now ← requireTimestamp (.str clockWitness.observedAt) "consumed_at"
  let issued ← requireTimestamp (.str grant.issuedAt) "grant.issued_at"
  let expires ← requireTimestamp (.str grant.expiresAt) "grant.expires_at"
  raiseIf (now < issued) (denied "CLOCK_PRECEDES_GRANT")
  raiseIf (expires ≤ now) (denied "GRANT_EXPIRED")
  raiseIf (db.emergencyStopActive = true) (denied "EMERGENCY_STOP_ACTIVE")
  assertLivePermission sha256 db grant
  let answer ← catching authorityErrors (denied "REVOCATION_AUTHORITY_DENIED")
    (surroundings.currentEpoch db grant.workspaceId grant.environment
      grant.capabilityDefinitionIdentity)
  let liveEpoch ← epochAnswer (denied "REVOCATION_EPOCH_INVALID") answer
  raiseIf (liveEpoch ≠ grant.revocationEpoch) (denied "REVOCATION_EPOCH_CHANGED")
  return liveEpoch

def freshConformance (grant : ExecutionGrantV2) : Except Raised ExecutionConformanceWitness := do
  let answer ← catching authorityErrors (denied "EXECUTION_CONFORMANCE_DENIED")
    (surroundings.conformance grant)
  let witness ← orRaise (denied "EXECUTION_CONFORMANCE_INVALID") answer
  raiseIf (witness.grantDigest ≠ grant.grantDigest)
    (denied "EXECUTION_CONFORMANCE_GRANT_MISMATCH")
  return witness

def decodeStoredGrant (row : ExecutionGrantRow) : Except Raised ExecutionGrantV2 := do
  let grant ← catching [.keyError, .typeError, .valueError] (denied "STORED_GRANT_CORRUPT")
    (ExecutionGrantV2.fromDict sha256 row.grant)
  raiseIf ([row.jti, row.grantId, row.executionId, row.requestId, row.workspaceId,
        row.environment, row.authorizationSnapshotDigest, row.executionCapsuleDigest,
        row.grantDigest, row.issuedAt, row.expiresAt] ≠
      [grant.jti, grant.grantId, grant.executionId, grant.requestId, grant.workspaceId,
        grant.environment, grant.authorizationSnapshotDigest, grant.executionCapsuleDigest,
        grant.grantDigest, grant.issuedAt, grant.expiresAt])
    (denied "STORED_GRANT_BINDING_MISMATCH")
  raiseIf (row.revocationEpoch ≠ grant.revocationEpoch) (denied "STORED_GRANT_BINDING_MISMATCH")
  return grant

/-- `issue_and_store`, on what the issuer returned; `none` is no grant.  `faults` may interrupt
the write and the commit. -/
def issueAndStore (issued : Except Raised (Option ExecutionGrantV2))
    (faults : Except Raised Unit × Except Raised Unit) (db : Database) :
    Except Raised (ExecutionGrantV2 × Database) := do
  let grant ← orRaise ⟨.runtimeError, "grant issuer returned an invalid grant"⟩ (← issued)
  let clockWitness ← service.trustedClockWitness sha256 surroundings grant
  let liveEpoch ← assertLiveAuthority sha256 surroundings db grant clockWitness
  let conformance ← freshConformance surroundings grant
  let stored ← catching [.databaseIntegrityError] (denied "GRANT_STORE_CONFLICT") do
    faults.1
    db.insertStoredGrant (grant.row conformance clockWitness liveEpoch service.authorityRevision)
  faults.2
  return (grant, stored)

/-- What a consumption has read and checked before it writes. -/
structure Prepared where
  grant : ExecutionGrantV2
  clockWitness : ClockWitness
  liveEpoch : Int
  conformance : ExecutionConformanceWitness
  witness : GrantConsumptionWitness

def Prepared.row (prepared : Prepared) : GrantConsumptionRow :=
  prepared.witness.row prepared.grant prepared.conformance prepared.clockWitness prepared.liveEpoch

/-- The common part of `consume` and `consume_and_enqueue` up to the consumption witness. -/
def prepare (consumptionId jti : String) (db : Database) : Except Raised Prepared := do
  let jti ← requireText (.str jti) "jti"
  raiseIf ((Table.lookup (·.jti) db.grantConsumptions jti).isSome) (denied "GRANT_ALREADY_CONSUMED")
  let row ← orRaise (denied "GRANT_NOT_FOUND") (Table.lookup (·.jti) db.executionGrants jti)
  let grant ← decodeStoredGrant sha256 row
  let clockWitness ← service.trustedClockWitness sha256 surroundings grant
  let liveEpoch ← assertLiveAuthority sha256 surroundings db grant clockWitness
  let conformance ← freshConformance surroundings grant
  let witness ← GrantConsumptionWitness.create sha256 consumptionId grant conformance clockWitness
    liveEpoch service.authorityRevision
  return ⟨grant, clockWitness, liveEpoch, conformance, witness⟩

def recordConsumption (fault : Except Raised Unit) (prepared : Prepared) (db : Database) :
    Except Raised Database :=
  catching [.databaseIntegrityError] (denied "GRANT_ALREADY_CONSUMED") do
    fault
    db.insertConsumption prepared.row

def consume (consumptionId jti : String) (faults : Except Raised Unit × Except Raised Unit)
    (db : Database) : Except Raised (GrantConsumptionWitness × Database) := do
  let prepared ← service.prepare sha256 surroundings consumptionId jti db
  let consumed ← recordConsumption faults.1 prepared db
  faults.2
  return (prepared.witness, consumed)

end DurableGrantService

/-- The columns in which a stored row repeats its grant. -/
structure ExecutionGrantRow.Shows (row : ExecutionGrantRow) (grant : ExecutionGrantV2) : Prop where
  jti : row.jti = grant.jti
  grantId : row.grantId = grant.grantId
  executionId : row.executionId = grant.executionId
  requestId : row.requestId = grant.requestId
  workspaceId : row.workspaceId = grant.workspaceId
  environment : row.environment = grant.environment
  snapshot : row.authorizationSnapshotDigest = grant.authorizationSnapshotDigest
  capsule : row.executionCapsuleDigest = grant.executionCapsuleDigest
  grantDigest : row.grantDigest = grant.grantDigest
  issuedAt : row.issuedAt = grant.issuedAt
  expiresAt : row.expiresAt = grant.expiresAt
  revocationEpoch : row.revocationEpoch = grant.revocationEpoch

/-- The columns in which a stored row repeats its consumption witness. -/
structure GrantConsumptionRow.Shows (row : GrantConsumptionRow)
    (witness : GrantConsumptionWitness) : Prop where
  consumptionId : row.consumptionId = witness.consumptionId
  jti : row.jti = witness.jti
  grantDigest : row.grantDigest = witness.grantDigest
  executionId : row.executionId = witness.executionId
  snapshot : row.authorizationSnapshotDigest = witness.authorizationSnapshotDigest
  capsule : row.executionCapsuleDigest = witness.executionCapsuleDigest
  runner : row.runnerClass = witness.runnerClass
  conformance : row.conformanceWitnessDigest = witness.conformanceWitnessDigest
  clock : row.clockWitnessDigest = witness.clockWitnessDigest
  epoch : row.liveRevocationEpoch = witness.liveRevocationEpoch
  consumedAt : row.consumedAt = witness.consumedAt
  serialization : row.serializationContract = witness.serializationContract
  revision : row.authorityRevision = witness.authorityRevision
  digest : row.consumptionDigest = witness.witnessDigest

/-- The live authority under which a grant is stored or consumed. -/
structure LiveAuthority (surroundings : GrantSurroundings) (db : Database)
    (grant : ExecutionGrantV2) (clockWitness : ClockWitness) (epoch : Int) : Prop where
  inForce : ∃ now issued expires, Instant.ofIsoformat? clockWitness.observedAt = some now ∧
    Instant.ofIsoformat? grant.issuedAt = some issued ∧
    Instant.ofIsoformat? grant.expiresAt = some expires ∧ issued ≤ now ∧ now < expires
  notStopped : db.emergencyStopActive = false
  permission : grant.requiredPermission = requiredExecutionPermission
  permitted : db.Permits (DurableGrantService.permissionQuery grant)
  answered : surroundings.currentEpoch db grant.workspaceId grant.environment
    grant.capabilityDefinitionIdentity = .ok (.int epoch)
  unchanged : epoch = grant.revocationEpoch

namespace DurableGrantService

variable {service : DurableGrantService} {sha256 : String → String}
  {surroundings : GrantSurroundings} {db : Database}

theorem epochAnswer_eq_ok {invalid : Raised} {answer : Json} {epoch : Int}
    (accepted : epochAnswer invalid answer = .ok epoch) : answer = .int epoch ∧ 0 ≤ epoch := by
  unfold epochAnswer at accepted
  split at accepted
  · split at accepted
    · cases accepted
    · next nonnegative =>
      cases accepted
      exact ⟨rfl, not_lt.mp nonnegative⟩
  · cases accepted

variable {grant : ExecutionGrantV2} {prepared : Prepared}

theorem assertLivePermission_eq_ok {result : Unit}
    (passed : assertLivePermission sha256 db grant = .ok result) :
    grant.requiredPermission = requiredExecutionPermission ∧
      db.Permits (permissionQuery grant) := by
  simp only [assertLivePermission, bind_eq_ok, raiseIf_eq_ok, not_not, catching_eq_ok] at passed
  obtain ⟨_, permission, _, _, decision, decided, _, _, granted⟩ := passed
  refine ⟨permission, Database.permits_of_currentPermission ?_⟩
  rw [← Database.decideDatabasePermission_eq_ok decided]
  simpa using granted

theorem assertLiveAuthority_eq_ok {clockWitness : ClockWitness} {epoch : Int}
    (passed : assertLiveAuthority sha256 surroundings db grant clockWitness = .ok epoch) :
    LiveAuthority surroundings db grant clockWitness epoch := by
  simp only [assertLiveAuthority, bind_eq_ok, requireTimestamp_eq_ok, raiseIf_eq_ok,
    catching_eq_ok, pure_eq_ok, Json.str.injEq, not_lt, not_le, not_not] at passed
  obtain ⟨now, ⟨observed, _⟩, issued, ⟨issuedAt, _⟩, expires, ⟨expiresAt, _⟩, _, after, _, before,
    _, running, _, permission, _, answered, live, accepted, _, unchanged, rfl⟩ := passed
  obtain ⟨required, permitted⟩ := assertLivePermission_eq_ok permission
  obtain ⟨rfl, _⟩ := epochAnswer_eq_ok accepted
  exact
    { inForce := ⟨now, issued, expires, Instant.ofIsoformat?_eq_some.mpr observed.symm,
        Instant.ofIsoformat?_eq_some.mpr issuedAt.symm,
        Instant.ofIsoformat?_eq_some.mpr expiresAt.symm, after, before⟩
      notStopped := by simpa using running
      permission := required
      permitted
      answered
      unchanged }

theorem freshConformance_eq_ok {conformance : ExecutionConformanceWitness}
    (fresh : freshConformance surroundings grant = .ok conformance) :
    conformance.grantDigest = grant.grantDigest := by
  simp only [freshConformance, bind_eq_ok, raiseIf_eq_ok, pure_eq_ok, not_not] at fresh
  obtain ⟨_, _, _, _, _, same, rfl⟩ := fresh
  exact same

theorem decodeStoredGrant_eq_ok {row : ExecutionGrantRow}
    (decoded : decodeStoredGrant sha256 row = .ok grant) :
    ExecutionGrantV2.fromDict sha256 row.grant = .ok grant ∧ row.Shows grant := by
  simp only [decodeStoredGrant, bind_eq_ok, catching_eq_ok, raiseIf_eq_ok, not_not, pure_eq_ok]
    at decoded
  obtain ⟨_, read, _, columns, _, epoch, rfl⟩ := decoded
  simp only [List.cons.injEq, and_true] at columns
  obtain ⟨jti, grantId, execution, request, workspace, environment, snapshot, capsule, digest,
    issued, expires⟩ := columns
  exact ⟨read, jti, grantId, execution, request, workspace, environment, snapshot, capsule, digest,
    issued, expires, epoch⟩

/-- What storing a grant establishes: the grant came from the issuer, was live, and its row is
new. -/
structure Stores (surroundings : GrantSurroundings)
    (issued : Except Raised (Option ExecutionGrantV2))
    (db next : Database) (grant : ExecutionGrantV2) (row : ExecutionGrantRow) : Prop where
  fromIssuer : issued = .ok (some grant)
  live : ∃ clockWitness epoch, LiveAuthority surroundings db grant clockWitness epoch
  shows : row.Shows grant
  payload : row.grant = grant.toDict
  fresh : row.Fresh db
  bound : row.Bound db
  effect : next = db.setExecutionGrants (db.executionGrants ++ [row])

theorem issueAndStore_eq_ok {issued : Except Raised (Option ExecutionGrantV2)}
    {faults : Except Raised Unit × Except Raised Unit} {next : Database}
    (returned : service.issueAndStore sha256 surroundings issued faults db = .ok (grant, next)) :
    ∃ row, Stores surroundings issued db next grant row := by
  simp only [issueAndStore, bind_eq_ok, orRaise_eq_ok, catching_eq_ok, pure_eq_ok,
    Prod.mk.injEq] at returned
  obtain ⟨_, fromIssuer, _, rfl, clockWitness, _, epoch, passed, conformance, _, stored,
    ⟨_, _, inserted⟩, _, _, rfl, rfl⟩ := returned
  have live := assertLiveAuthority_eq_ok passed
  obtain ⟨effect, fresh, bound⟩ := Database.insertStoredGrant_eq_ok inserted
  exact ⟨_, fromIssuer, ⟨clockWitness, epoch, live⟩,
    ⟨rfl, rfl, rfl, rfl, rfl, rfl, rfl, rfl, rfl, rfl, rfl, live.unchanged⟩, rfl, fresh, bound,
    effect⟩

/-- What preparing a consumption establishes about the stored grant and the witness. -/
structure Prepares (sha256 : String → String) (surroundings : GrantSurroundings) (db : Database)
    (jti : String) (prepared : Prepared) (stored : ExecutionGrantRow) : Prop where
  member : stored ∈ db.executionGrants
  wanted : stored.jti = jti
  unconsumed : ∀ row ∈ db.grantConsumptions, row.jti ≠ jti
  read : ExecutionGrantV2.fromDict sha256 stored.grant = .ok prepared.grant
  shows : stored.Shows prepared.grant
  live : LiveAuthority surroundings db prepared.grant prepared.clockWitness prepared.liveEpoch
  conforms : prepared.conformance.grantDigest = prepared.grant.grantDigest
  witnessRead : GrantConsumptionWitness.fromDict sha256 prepared.witness.toDict =
    .ok prepared.witness
  made : ∃ consumptionId revision digest, prepared.witness =
    { GrantConsumptionWitness.draft consumptionId prepared.grant prepared.conformance
        prepared.clockWitness prepared.liveEpoch revision with witnessDigest := digest }

theorem prepare_eq_ok {consumptionId jti : String}
    (returned : service.prepare sha256 surroundings consumptionId jti db = .ok prepared) :
    ∃ stored, Prepares sha256 surroundings db jti prepared stored := by
  simp only [prepare, bind_eq_ok, requireText_eq_ok, Json.str.injEq, raiseIf_eq_ok,
    Bool.not_eq_true, Option.isSome_eq_false_iff, Option.isNone_iff_eq_none, orRaise_eq_ok,
    pure_eq_ok] at returned
  obtain ⟨_, ⟨rfl, _⟩, _, unconsumed, stored, found, grant, decoded, clockWitness, _, epoch, passed,
    conformance, fresh, witness, created, rfl⟩ := returned
  obtain ⟨member, wanted⟩ := Table.mem_of_lookup found
  obtain ⟨read, shows⟩ := decodeStoredGrant_eq_ok decoded
  obtain ⟨digest, made⟩ := GrantConsumptionWitness.create_eq_ok created
  exact ⟨stored,
    { member
      wanted
      unconsumed := Table.lookup_eq_none.mp unconsumed
      read
      shows
      live := assertLiveAuthority_eq_ok passed
      conforms := freshConformance_eq_ok fresh
      witnessRead := Contract.fromDict_of_create GrantConsumptionWitness.lawful created
      made := ⟨consumptionId, service.authorityRevision, digest, made⟩ }⟩

theorem Prepares.shows_row {jti : String} {stored : ExecutionGrantRow}
    (prepares : Prepares sha256 surroundings db jti prepared stored) :
    prepared.row.Shows prepared.witness := by
  obtain ⟨_, _, _, made⟩ := prepares.made
  obtain ⟨grant, clockWitness, liveEpoch, conformance, witness⟩ := prepared
  simp only at made
  subst made
  constructor <;> rfl

theorem recordConsumption_eq_ok {fault : Except Raised Unit} {next : Database}
    (recorded : recordConsumption fault prepared db = .ok next) :
    next = db.setGrantConsumptions (db.grantConsumptions ++ [prepared.row]) ∧
      prepared.row.Fresh db ∧ prepared.row.Bound db := by
  simp only [recordConsumption, catching_eq_ok, bind_eq_ok] at recorded
  obtain ⟨_, _, inserted⟩ := recorded
  exact Database.insertConsumption_eq_ok inserted

end DurableGrantService

end VoodooOne
