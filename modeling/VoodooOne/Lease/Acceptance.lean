import VoodooOne.Foundation.JsonRoundTrip
import VoodooOne.Lease.Statements

/-!
# Checks of the service and triggers of the tables

`acquire` and `complete` decide first and write afterwards.  Here the decision is a value of its
own, and what the service has decided to write passes the triggers in every database that the
service can reach.
-/

namespace VoodooOne

open Calendar DurableExecutionLeaseService

/-- What `acquire` has decided: the new lease, and the lease that it follows. -/
structure AcquirePlan where
  admission : DispatchInboxAdmission
  clockWitness : ClockWitness
  previous : Option ExecutionLease
  lease : ExecutionLease

/-- What `complete` has decided: a completion to record, or one that is recorded already. -/
inductive CompletePlan where
  | duplicate (lease : ExecutionLease) (completion : String)
  | record (lease : ExecutionLease) (completion : String) (clockWitness : ClockWitness)

namespace DurableExecutionLeaseService

/-- The checks of `acquire`. -/
def planAcquire (service : DurableExecutionLeaseService) (sha256 : String → String)
    (admissionId : String) (reading : ClockReading) (db : Database) :
    Except Raised AcquirePlan := do
  let _ ← requireDigest (.str admissionId) "admission_id"
  let admissionRow ← orRaise (denied "ADMISSION_NOT_FOUND")
    (Table.lookup (·.admissionId) db.dispatchInbox admissionId)
  let admission ← decodeAdmission sha256 admissionRow
  let clockWitness ← service.trustedClock.witness sha256 admission.environment reading
  match Table.lookup (·.admissionId) db.executionEpochState admissionId with
  | none =>
      assertNextExecutionEpoch none 1
      let lease ← ExecutionLease.createCandidate sha256 admission 1 clockWitness
        service.leaseSeconds service.leaseRevision
      return ⟨admission, clockWitness, none, lease⟩
  | some state =>
      let previous ← service.previousLease sha256 db admission clockWitness state
      assertNextExecutionEpoch (some state.currentEpoch) (state.currentEpoch + 1)
      let lease ← ExecutionLease.createCandidate sha256 admission (state.currentEpoch + 1)
        clockWitness service.leaseSeconds service.leaseRevision
      return ⟨admission, clockWitness, some previous, lease⟩

/-- The checks of `complete`. -/
def planComplete (service : DurableExecutionLeaseService) (sha256 : String → String)
    (leaseId completionDigest : String) (reading : ClockReading) (db : Database) :
    Except Raised CompletePlan := do
  let _ ← requireDigest (.str leaseId) "lease_id"
  let completion ← requireDigest (.str completionDigest) "completion_digest"
  let leaseRow ← orRaise (denied "LEASE_NOT_FOUND")
    (Table.lookup (·.leaseId) db.executionLeases leaseId)
  let lease ← decodeLease sha256 leaseRow
  let admissionRow ← orRaise (denied "ADMISSION_NOT_FOUND")
    (Table.lookup (·.admissionId) db.dispatchInbox lease.admissionId)
  let admission ← decodeAdmission sha256 admissionRow
  lease.assertBoundTo admission
  let state ← orRaise (denied "EPOCH_STATE_NOT_FOUND")
    (Table.lookup (·.admissionId) db.executionEpochState lease.admissionId)
  service.assertStateBound state admission
  if state.currentEpoch ≠ lease.executionEpoch then
    let clock ← service.trustedClock.witness sha256 lease.environment reading
    lease.assertCompletionFence state.currentEpoch clock
    .error (denied "CURRENT_LEASE_ID_MISMATCH")
  else
    raiseIf (state.currentLeaseId ≠ lease.leaseId) (denied "CURRENT_LEASE_ID_MISMATCH")
    assertStateMatchesLease state lease
    if state.status = .completed then
      raiseIf (state.completionDigest ≠ some completion)
        ⟨.durableCompletionConflict, "COMPLETION_DIGEST_CONFLICT"⟩
      return .duplicate lease completion
    else
      let clockWitness ← service.trustedClock.witness sha256 lease.environment reading
      lease.assertCompletionFence state.currentEpoch clockWitness
      return .record lease completion clockWitness

end DurableExecutionLeaseService

namespace AcquirePlan

def leaseRow (plan : AcquirePlan) : ExecutionLeaseRow :=
  plan.lease.row plan.clockWitness.toDict

/-- The `INSERT` or `UPDATE` of the epoch state. -/
def stateStatement (plan : AcquirePlan) (service : DurableExecutionLeaseService) : LeaseStatement :=
  match plan.previous with
  | none => .insertState (service.initialState plan.admission plan.lease plan.clockWitness)
  | some previous => .updateState (activeUnder plan.admission.admissionId previous)
      (reacquired plan.lease plan.clockWitness)

/-- The statements of `acquire`. -/
def write (plan : AcquirePlan) (service : DurableExecutionLeaseService) (db : Database) :
    Except Raised (DurableExecutionLeaseResult × Database) := do
  let db ← catching [.databaseIntegrityError] (denied "LEASE_PERSISTENCE_CONFLICT")
    (db.insertLease plan.leaseRow)
  match plan.previous with
  | none =>
      let db ← catching [.databaseIntegrityError] (denied "EPOCH_STATE_PERSISTENCE_CONFLICT")
        (db.insertEpochState (service.initialState plan.admission plan.lease plan.clockWitness))
      return (⟨.leaseAcquired, plan.lease⟩, db)
  | some previous =>
      let (updated, db) ← db.updateEpochState (activeUnder plan.admission.admissionId previous)
        (reacquired plan.lease plan.clockWitness)
      let _ ← orRaise (denied "EPOCH_STATE_CHANGED_DURING_REACQUIRE") updated
      return (⟨.leaseReacquired, plan.lease⟩, db)

end AcquirePlan

/-- The statement of `complete`. -/
def CompletePlan.write (db : Database) :
    CompletePlan → Except Raised (DurableExecutionCompletionResult × Database)
  | .duplicate lease completion => .ok (⟨.duplicateCompletion, lease, completion⟩, db)
  | .record lease completion clockWitness => do
      let (updated, db) ← db.updateEpochState (activeUnder lease.admissionId lease)
        (completedState completion clockWitness)
      let _ ← orRaise (denied "EPOCH_STATE_CHANGED_DURING_COMPLETION") updated
      return (⟨.completed, lease, completion⟩, db)

/-- `acquire` decides, then writes. -/
theorem DurableExecutionLeaseService.acquire_eq (service : DurableExecutionLeaseService)
    (sha256 : String → String) (admissionId : String) (reading : ClockReading) (db : Database) :
    service.acquire sha256 admissionId reading db =
      service.planAcquire sha256 admissionId reading db >>= fun plan => plan.write service db := by
  rw [acquire, planAcquire]
  cases Table.lookup (·.admissionId) db.executionEpochState admissionId with
  | none => simp only [bind_assoc, pure_bind, AcquirePlan.write]; rfl
  | some state => simp only [bind_assoc, pure_bind, AcquirePlan.write]; rfl

/-- `complete` decides, then writes. -/
theorem DurableExecutionLeaseService.complete_eq (service : DurableExecutionLeaseService)
    (sha256 : String → String) (leaseId completionDigest : String) (reading : ClockReading)
    (db : Database) :
    service.complete sha256 leaseId completionDigest reading db =
      service.planComplete sha256 leaseId completionDigest reading db >>= fun plan =>
        plan.write db := by
  rw [complete, planComplete]
  simp only [bind_assoc]
  refine bind_congr fun _ => bind_congr fun completion => bind_congr fun leaseRow =>
    bind_congr fun lease => bind_congr fun admissionRow => bind_congr fun admission =>
    bind_congr fun _ => bind_congr fun state => bind_congr fun _ => ?_
  split
  · simp only [bind_assoc]
    rfl
  · simp only [bind_assoc]
    refine bind_congr fun _ => bind_congr fun _ => ?_
    split
    · simp only [bind_assoc, pure_bind]
      rfl
    · simp only [bind_assoc, pure_bind, CompletePlan.write]

theorem nonEmpty_of_validText {text : String} (valid : ValidText text) : NonEmpty text := by
  rw [NonEmpty, Nat.pos_iff_ne_zero]
  exact fun none => valid.1 (String.length_eq_zero_iff.mp none)

theorem nonEmpty_isoformat (instant : Instant) : NonEmpty instant.isoformat := by
  rw [NonEmpty, Instant.isoformat, String.length_ofList]
  simp only [Instant.isoColumns, Instant.fields, DecimalText.render, List.length_append,
    DecimalText.pad_length]
  omega

theorem jsonColumn_object (field : String × Json) (fields : List (String × Json)) :
    JsonColumn (.object (field :: fields)) := by
  rw [JsonColumn, canonicalJson, String.length_ofList, render_object_eq, render_obj]
  have member : field ∈ (field :: fields).insertionSort Json.keyLe := by
    rw [(List.perm_insertionSort Json.keyLe _).mem_iff]
    exact List.mem_cons_self
  have longer := length_text_le_joined (List.mem_map.mpr ⟨field, member, rfl⟩ :
    quote field.1 ++ ':' :: render field.2 ∈ ((field :: fields).insertionSort Json.keyLe).map
      fun entry => quote entry.1 ++ ':' :: render entry.2)
  simp only [List.length_append, List.length_cons, List.length_nil] at longer ⊢
  omega

theorem TrustedClockAuthority.witness_columns {authority : TrustedClockAuthority}
    {sha256 : String → String} {environment : String} {reading : ClockReading}
    {witness : ClockWitness}
    (witnessed : authority.witness sha256 environment reading = .ok witness) :
    EnvironmentColumn environment ∧ IsDigest witness.witnessDigest := by
  simp only [TrustedClockAuthority.witness, bind_eq_ok, raiseIf_eq_ok, not_not] at witnessed
  obtain ⟨_, known, _, -, created⟩ := witnessed
  cases reading with
  | aware instant =>
      simp only [ClockWitness.create, ClockWitness.postInit, bind_eq_ok, raiseIf_eq_ok, not_not,
        pure_eq_ok] at created
      obtain ⟨_, ⟨_, -, _, -, _, -, _, -, _, digest, -⟩, rfl⟩ := created
      exact ⟨known, digest⟩
  | naive => cases created
  | notDatetime => cases created
  | raises error => cases created

structure LeaseColumns (lease : ExecutionLease) : Prop where
  digests : IsDigest lease.leaseId ∧ IsDigest lease.dispatchId ∧ IsDigest lease.admissionDigest ∧
    IsDigest lease.executionCapsuleDigest ∧ IsDigest lease.clockWitnessDigest ∧
    IsDigest lease.leaseDigest
  texts : NonEmpty lease.executionId ∧ NonEmpty lease.runnerClass ∧ NonEmpty lease.acquiredAt ∧
    NonEmpty lease.expiresAt ∧ NonEmpty lease.leaseRevision
  epoch : 1 ≤ lease.executionEpoch

theorem LeaseColumns.of_construct {sha256 : String → String} {self : Attributes}
    {lease : ExecutionLease} (built : ExecutionLease.contract.construct sha256 self = .ok lease) :
    LeaseColumns lease := by
  obtain ⟨rfl, held, -, -⟩ := Contract.construct_eq_ok.mp built
  simp only [ExecutionLease.contract, requireTexts, requireDigests, requireEpochOf, List.map_cons,
    List.map_nil, List.cons_append, List.nil_append, List.forall_mem_cons, AttributeCheck.Holds]
    at held
  obtain ⟨⟨-, executionId⟩, -, -, ⟨-, runnerClass⟩, ⟨-, leaseRevision⟩, ⟨-, -, leaseId⟩,
    ⟨-, -, dispatchId⟩, -, ⟨-, -, admissionDigest⟩, ⟨-, -, capsule⟩, ⟨-, -, witnessDigest⟩,
    ⟨-, -, leaseDigest⟩, ⟨-, epoch⟩, ⟨-, acquiredAt⟩, ⟨-, expiresAt⟩, -⟩ := held
  exact
    { digests := ⟨leaseId, dispatchId, admissionDigest, capsule, witnessDigest, leaseDigest⟩
      texts := ⟨nonEmpty_of_validText executionId, nonEmpty_of_validText runnerClass,
        nonEmpty_of_validText acquiredAt, nonEmpty_of_validText expiresAt,
        nonEmpty_of_validText leaseRevision⟩
      epoch }

theorem createCandidate_columns {sha256 : String → String} {admission : DispatchInboxAdmission}
    {epoch : Int} {clockWitness : ClockWitness} {seconds : Nat} {revision : String}
    {lease : ExecutionLease}
    (created : ExecutionLease.createCandidate sha256 admission epoch clockWitness seconds revision =
      .ok lease) :
    lease.assertBoundTo admission = .ok () ∧ LeaseColumns lease ∧
      NonEmpty clockWitness.observedAt := by
  simp only [ExecutionLease.createCandidate, bind_eq_ok, requireEpoch_eq_ok, raiseIf_eq_ok,
    requireTimestamp_eq_ok, orRaise_eq_ok, Json.int.injEq, Json.str.injEq] at created
  obtain ⟨_, ⟨rfl, -⟩, _, -, _, -, _, -, acquired, ⟨observed, valid⟩, expires, -, built⟩ := created
  have same := ExecutionLease.contract.eq_of_create ExecutionLease.lawful built
  refine ⟨?_, LeaseColumns.of_construct built, ?_⟩
  · rw [ExecutionLease.assertBoundTo, raiseIf_eq_ok, not_not, same]
    rfl
  · rw [observed]
    exact nonEmpty_of_validText valid

def AcquirePlan.Follows (plan : AcquirePlan) (db : Database) : Option ExecutionLease → Prop
  | none => stateOf db plan.admission.admissionId = none ∧ plan.lease.executionEpoch = 1
  | some previous => ∃ state, stateOf db plan.admission.admissionId = some state ∧
      activeUnder plan.admission.admissionId previous state ∧
      plan.lease.executionEpoch = state.currentEpoch + 1 ∧
      state.currentLeaseExpiresAt ≤ plan.clockWitness.observedAt

/-- What holds when the checks of `acquire` have passed. -/
structure AcquirePlan.Passed (plan : AcquirePlan) (db : Database) : Prop where
  inbox : plan.admission.row ∈ db.dispatchInbox
  environment : EnvironmentColumn plan.admission.environment
  witness : IsDigest plan.clockWitness.witnessDigest ∧ NonEmpty plan.clockWitness.observedAt
  bound : plan.lease.assertBoundTo plan.admission = .ok ()
  columns : LeaseColumns plan.lease
  follows : plan.Follows db plan.previous

theorem activeUnder_of_previousLease {service : DurableExecutionLeaseService}
    {sha256 : String → String} {db : Database} {admission : DispatchInboxAdmission}
    {clockWitness : ClockWitness} {state : ExecutionEpochStateRow} {previous : ExecutionLease}
    (loaded : service.previousLease sha256 db admission clockWitness state = .ok previous) :
    activeUnder admission.admissionId previous state := by
  simp only [previousLease, assertStateBound, assertStateMatchesLease, bind_eq_ok, raiseIf_eq_ok,
    not_not, List.cons.injEq, pure_eq_ok] at loaded
  obtain ⟨_, ⟨admissionSame, -⟩, _, open', found, -, _, ⟨epoch, identity, digest, -⟩, _, -, rfl⟩ :=
    loaded
  have active : state.status = .active := by
    cases status : state.status with
    | active => rfl
    | completed => exact absurd status open'
  simp only [activeUnder, decide_eq_true_eq]
  exact ⟨admissionSame, active, epoch, identity, digest⟩

theorem DurableExecutionLeaseService.planAcquire_passed {service : DurableExecutionLeaseService}
    {sha256 : String → String} {admissionId : String} {reading : ClockReading} {db : Database}
    {plan : AcquirePlan}
    (planned : service.planAcquire sha256 admissionId reading db = .ok plan) : plan.Passed db := by
  simp only [planAcquire, bind_eq_ok, orRaise_eq_ok] at planned
  obtain ⟨_, -, admissionRow, foundRow, admission, decoded, clockWitness, witnessed, rest⟩ :=
    planned
  obtain ⟨stored, rowSame⟩ := Table.mem_of_lookup foundRow
  obtain rfl := decodeAdmission_eq_ok decoded
  have same : admission.admissionId = admissionId := rowSame
  obtain ⟨environment, digest⟩ := TrustedClockAuthority.witness_columns witnessed
  cases current : Table.lookup (·.admissionId) db.executionEpochState admissionId with
  | none =>
      simp only [current, bind_eq_ok, pure_eq_ok] at rest
      obtain ⟨_, -, lease, created, rfl⟩ := rest
      obtain ⟨bound, columns, observed⟩ := createCandidate_columns created
      obtain ⟨_, _, -, -, -, -, epoch, -⟩ := createCandidate_eq_ok created
      exact ⟨stored, environment, ⟨digest, observed⟩, bound, columns, same ▸ current, epoch⟩
  | some state =>
      simp only [current, bind_eq_ok, pure_eq_ok] at rest
      obtain ⟨previous, loaded, _, -, lease, created, rfl⟩ := rest
      obtain ⟨bound, columns, observed⟩ := createCandidate_columns created
      obtain ⟨_, _, -, -, -, -, epoch, -⟩ := createCandidate_eq_ok created
      obtain ⟨stop, expired⟩ := previousLease_eq_ok loaded
      exact ⟨stored, environment, ⟨digest, observed⟩, bound, columns, state, same ▸ current,
        activeUnder_of_previousLease loaded, epoch, stop ▸ expired⟩

/-- What holds when the checks of `complete` have passed. -/
def CompletePlan.Passed (db : Database) : CompletePlan → Prop
  | .duplicate .. => True
  | .record lease completion clockWitness => ∃ state,
      stateOf db lease.admissionId = some state ∧ activeUnder lease.admissionId lease state ∧
        IsDigest completion ∧ IsDigest clockWitness.witnessDigest ∧
        NonEmpty clockWitness.observedAt ∧
        state.currentLeaseAcquiredAt ≤ clockWitness.observedAt ∧
        clockWitness.observedAt < state.currentLeaseExpiresAt

theorem DurableExecutionLeaseService.planComplete_passed {service : DurableExecutionLeaseService}
    {sha256 : String → String} {leaseId completionDigest : String} {reading : ClockReading}
    {db : Database} {plan : CompletePlan}
    (planned : service.planComplete sha256 leaseId completionDigest reading db = .ok plan) :
    plan.Passed db := by
  simp only [planComplete, bind_eq_ok, orRaise_eq_ok, requireDigest_eq_ok,
    Json.str.injEq] at planned
  obtain ⟨_, -, completion, ⟨-, -, digest⟩, leaseRow, -, lease, -, admissionRow, -, admission, -, _,
    -, state, current, _, -, rest⟩ := planned
  split at rest
  · simp only [bind_eq_ok, reduceCtorEq, and_false, exists_false] at rest
  · simp only [bind_eq_ok, assertStateMatchesLease, raiseIf_eq_ok, not_not] at rest
    obtain ⟨_, -, _, ⟨sameEpoch, sameId, sameDigest, sameStart, sameStop⟩, rest⟩ := rest
    split at rest
    · simp only [bind_eq_ok, pure_eq_ok] at rest
      obtain ⟨_, -, rfl⟩ := rest
      trivial
    · next open' =>
      simp only [bind_eq_ok, pure_eq_ok] at rest
      obtain ⟨clockWitness, witnessed, _, fence, rfl⟩ := rest
      obtain ⟨-, acquired, expires, observed, start, stop, time, after, before⟩ :=
        assertCompletionFence_eq_ok fence
      have active : state.status = .active := by
        cases status : state.status with
        | active => rfl
        | completed => exact absurd status open'
      refine ⟨state, current, ?_, digest, (TrustedClockAuthority.witness_columns witnessed).2, ?_,
        ?_, ?_⟩
      · simp only [activeUnder, decide_eq_true_eq]
        exact ⟨(Table.mem_of_lookup current).2, active, sameEpoch, sameId, sameDigest⟩
      · rw [time]
        exact nonEmpty_isoformat observed
      · rw [sameStart, start, time]
        exact Instant.isoformat_le_isoformat.mpr after
      · rw [sameStop, stop, time]
        exact Instant.isoformat_lt_isoformat.mpr before

end VoodooOne
