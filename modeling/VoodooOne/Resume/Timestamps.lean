import VoodooOne.Foundation.ValidTexts
import VoodooOne.Lease.Service
import VoodooOne.Resume.Lineage

/-!
# Timestamps as texts and as datetimes

The completion fence compares datetimes.  The triggers on epoch states, the renewal of a lease and
the resume checks compare the stored texts.  An accepted text renders its datetime in columns of
fixed width, so all of them decide the same comparison.
-/

namespace VoodooOne

open Calendar

/-- A datetime in UTC: microseconds since the start of the year 1, up to the year 9999. -/
structure UtcDatetime where
  microseconds : Nat
  inRange : microseconds < 315537897600000000
deriving DecidableEq

namespace UtcDatetime

theorem microseconds_injective : Function.Injective microseconds := by
  rintro ⟨left, _⟩ ⟨right, _⟩ rfl
  rfl

instance : LinearOrder UtcDatetime := LinearOrder.lift' microseconds microseconds_injective

/-- `isoformat(timespec="milliseconds")`, which cuts the microseconds off. -/
def isoformat (datetime : UtcDatetime) : String :=
  Instant.isoformat ⟨datetime.microseconds / 1000, by
    have := datetime.inRange
    omega⟩

/-- The datetime of a whole number of milliseconds. -/
def ofInstant (instant : Instant) : UtcDatetime :=
  ⟨instant.milliseconds * 1000, by
    have := instant.inRange
    omega⟩

theorem ofInstant_lt_ofInstant {left right : Instant} :
    ofInstant left < ofInstant right ↔ left < right :=
  Nat.mul_lt_mul_right (by decide)

theorem ofInstant_injective : Function.Injective ofInstant := by
  intro left right same
  apply Instant.milliseconds_injective
  exact Nat.eq_of_mul_eq_mul_right (by decide) (congrArg microseconds same)

theorem isoformat_ofInstant (instant : Instant) :
    (ofInstant instant).isoformat = instant.isoformat :=
  congrArg Instant.isoformat (Instant.milliseconds_injective
    (Nat.mul_div_cancel instant.milliseconds (by decide)))

end UtcDatetime

/-- A parsed datetime: microseconds of civil time, and where it is aware the offset from UTC. -/
inductive Datetime where
  | naive (civil : Int)
  | aware (civil utcoffset : Int)

/-- `astimezone(UTC)` of an aware datetime, unless it leaves the calendar. -/
def astimezone (civil utcoffset : Int) : Option UtcDatetime :=
  if inRange : (civil - utcoffset).toNat < 315537897600000000 then
    if 0 ≤ civil - utcoffset then some ⟨(civil - utcoffset).toNat, inRange⟩ else none
  else none

/-- `datetime.fromisoformat`, which raises `ValueError` where it has no value.  It reads what
`isoformat` writes. -/
structure DatetimeParser where
  fromisoformat : String → Option Datetime
  fromisoformat_isoformat (instant : Instant) :
    fromisoformat instant.isoformat = some (.aware (instant.milliseconds * 1000) 0)

instance : Inhabited DatetimeParser where
  default :=
    { fromisoformat := fun text =>
        (Instant.ofIsoformat? text).map fun instant => .aware (instant.milliseconds * 1000) 0
      fromisoformat_isoformat := fun instant => by rw [Instant.ofIsoformat?_eq_some.mpr rfl]; rfl }

namespace DatetimeParser

variable (datetimes : DatetimeParser)

/-- `_require_timestamp`: the text and its datetime. -/
def requireTimestamp (value : Json) (field : String) : Except Raised (String × UtcDatetime) := do
  let text ← requireText value field
  match datetimes.fromisoformat text with
  | none => .error (valueError (field ++ " is invalid"))
  | some (.naive _) => .error (valueError (field ++ " must be timezone-aware"))
  | some (.aware civil utcoffset) => do
      let datetime ← orRaise ⟨.overflowError, "date value out of range"⟩
        (astimezone civil utcoffset)
      raiseIf (text ≠ datetime.isoformat)
        (valueError (field ++ " must use canonical UTC millisecond form"))
      return (datetime.isoformat, datetime)

/-- A text that `_require_timestamp` accepts, with the datetime it returns. -/
def Accepts (text : String) (datetime : UtcDatetime) : Prop :=
  ∃ field, datetimes.requireTimestamp (.str text) field = .ok (text, datetime)

variable {datetimes : DatetimeParser}

theorem astimezone_ofInstant (instant : Instant) :
    astimezone (instant.milliseconds * 1000) 0 = some (.ofInstant instant) := by
  have := instant.inRange
  unfold astimezone
  rw [dif_pos (by omega), if_pos (by omega), Option.some.injEq]
  exact UtcDatetime.microseconds_injective
    (by change (instant.milliseconds * 1000 - 0 : Int).toNat = instant.milliseconds * 1000; omega)

/-- The lease code accepts the timestamps that every contract accepts. -/
theorem requireTimestamp_eq_ok {value : Json} {field text : String} {datetime : UtcDatetime} :
    datetimes.requireTimestamp value field = .ok (text, datetime) ↔
      ∃ instant, VoodooOne.requireTimestamp value field = .ok instant ∧
        text = instant.isoformat ∧ datetime = .ofInstant instant := by
  simp only [requireTimestamp, bind_eq_ok, requireText_eq_ok, VoodooOne.requireTimestamp_eq_ok]
  constructor
  · rintro ⟨found, ⟨rfl, valid⟩, parsed⟩
    split at parsed
    · cases parsed
    · cases parsed
    · next civil utcoffset aware =>
      simp only [bind_eq_ok, orRaise_eq_ok, raiseIf_eq_ok, not_not, pure_eq_ok,
        Prod.mk.injEq] at parsed
      obtain ⟨utc, converted, _, canonical, rfl, rfl⟩ := parsed
      -- the text is a rendering, so the parser reads the rendered instant and nothing finer
      rw [canonical, UtcDatetime.isoformat, datetimes.fromisoformat_isoformat, Option.some.injEq,
        Datetime.aware.injEq] at aware
      obtain ⟨rfl, rfl⟩ := aware
      rw [astimezone_ofInstant, Option.some.injEq] at converted
      have text := congrArg UtcDatetime.isoformat converted
      rw [UtcDatetime.isoformat_ofInstant] at text
      exact ⟨_, ⟨by rw [canonical, text], text ▸ canonical ▸ valid⟩, text.symm, converted.symm⟩
  · rintro ⟨instant, ⟨rfl, valid⟩, rfl, rfl⟩
    refine ⟨_, ⟨rfl, valid⟩, ?_⟩
    rw [datetimes.fromisoformat_isoformat]
    simp only [bind_eq_ok, orRaise_eq_ok, raiseIf_eq_ok, pure_eq_ok, not_not]
    exact ⟨_, astimezone_ofInstant instant, (), (UtcDatetime.isoformat_ofInstant instant).symm,
      Prod.ext (UtcDatetime.isoformat_ofInstant instant) rfl⟩

theorem accepts_iff {text : String} {datetime : UtcDatetime} : datetimes.Accepts text datetime ↔
    ∃ instant : Instant, text = instant.isoformat ∧ datetime = .ofInstant instant := by
  simp only [Accepts, requireTimestamp_eq_ok, VoodooOne.requireTimestamp_eq_ok, Json.str.injEq]
  constructor
  · rintro ⟨_, instant, -, rendered, same⟩
    exact ⟨instant, rendered, same⟩
  · rintro ⟨instant, rfl, rfl⟩
    exact ⟨"", instant, ⟨rfl, validText_isoformat instant⟩, rfl, rfl⟩

section Order

variable {left right : String} {first second : UtcDatetime}

theorem lt_iff (one : datetimes.Accepts left first) (two : datetimes.Accepts right second) :
    left < right ↔ first < second := by
  obtain ⟨leftInstant, rfl, rfl⟩ := accepts_iff.mp one
  obtain ⟨rightInstant, rfl, rfl⟩ := accepts_iff.mp two
  rw [Instant.isoformat_lt_isoformat, UtcDatetime.ofInstant_lt_ofInstant]

theorem le_iff (one : datetimes.Accepts left first) (two : datetimes.Accepts right second) :
    left ≤ right ↔ first ≤ second := by
  rw [← not_lt, ← not_lt, lt_iff two one]

theorem eq_iff (one : datetimes.Accepts left first) (two : datetimes.Accepts right second) :
    left = right ↔ first = second := by
  obtain ⟨leftInstant, rfl, rfl⟩ := accepts_iff.mp one
  obtain ⟨rightInstant, rfl, rfl⟩ := accepts_iff.mp two
  rw [Instant.isoformat_injective.eq_iff, UtcDatetime.ofInstant_injective.eq_iff]

end Order

end DatetimeParser

/-- Neither `CLOCK_BEFORE_LEASE` nor `LEASE_EXPIRED`. -/
def Within (acquired expires observed : UtcDatetime) : Prop :=
  ¬observed < acquired ∧ ¬expires ≤ observed

instance (acquired expires observed : UtcDatetime) : Decidable (Within acquired expires observed) :=
  inferInstanceAs (Decidable (¬_ ∧ ¬_))

/-- Two text comparisons make up the fence's comparison of datetimes. -/
theorem DatetimeParser.within_iff {datetimes : DatetimeParser} {start stop time : String}
    {acquired expires observed : UtcDatetime} (starts : datetimes.Accepts start acquired)
    (stops : datetimes.Accepts stop expires) (now : datetimes.Accepts time observed) :
    start ≤ time ∧ time < stop ↔ Within acquired expires observed := by
  rw [Within, le_iff starts now, lt_iff now stops, not_lt, not_le]

/-- `assert_completion_fence`, on datetimes. -/
def ExecutionLease.completionFence (datetimes : DatetimeParser) (lease : ExecutionLease)
    (currentExecutionEpoch : Int) (clockWitness : ClockWitness) : Except Raised Unit := do
  let current ← requireEpoch (.int currentExecutionEpoch) "current_execution_epoch"
  raiseIf (clockWitness.environment ≠ lease.environment) (fenceDenied "CLOCK_ENVIRONMENT_MISMATCH")
  raiseIf (current < lease.executionEpoch) (fenceDenied "EXECUTION_EPOCH_REGRESSION")
  raiseIf (lease.executionEpoch < current) (fenceDenied "STALE_EXECUTION_EPOCH")
  let acquired ← datetimes.requireTimestamp (.str lease.acquiredAt) "acquired_at"
  let expires ← datetimes.requireTimestamp (.str lease.expiresAt) "expires_at"
  let observed ←
    datetimes.requireTimestamp (.str clockWitness.observedAt) "clock_witness.observed_at"
  raiseIf (observed.2 < acquired.2) (fenceDenied "CLOCK_BEFORE_LEASE")
  raiseIf (expires.2 ≤ observed.2) (fenceDenied "LEASE_EXPIRED")

namespace DatetimeParser

variable {datetimes : DatetimeParser}

theorem Accepts.require {text : String} {datetime : UtcDatetime}
    (accepts : datetimes.Accepts text datetime) (field : String) :
    datetimes.requireTimestamp (.str text) field = .ok (text, datetime) := by
  obtain ⟨instant, rfl, rfl⟩ := accepts_iff.mp accepts
  exact requireTimestamp_eq_ok.mpr ⟨instant,
    VoodooOne.requireTimestamp_eq_ok.mpr ⟨rfl, validText_isoformat instant⟩, rfl, rfl⟩

end DatetimeParser

theorem ExecutionLease.completionFence_eq_ok {datetimes : DatetimeParser} {lease : ExecutionLease}
    {current : Int} {clockWitness : ClockWitness} {acquired expires observed : UtcDatetime}
    (starts : datetimes.Accepts lease.acquiredAt acquired)
    (stops : datetimes.Accepts lease.expiresAt expires)
    (now : datetimes.Accepts clockWitness.observedAt observed) :
    lease.completionFence datetimes current clockWitness = .ok () ↔
      1 ≤ current ∧ clockWitness.environment = lease.environment ∧
        lease.executionEpoch = current ∧ Within acquired expires observed := by
  simp only [completionFence, bind_eq_ok, requireEpoch_eq_ok, raiseIf_eq_ok, Json.int.injEq,
    starts.require, stops.require, now.require, Except.ok.injEq, not_not, not_lt, Within]
  constructor
  · rintro ⟨_, ⟨rfl, positive⟩, _, environment, _, lower, _, upper, _, rfl, _, rfl, _, rfl, _,
      after, before⟩
    exact ⟨positive, environment, le_antisymm lower upper, after, before⟩
  · rintro ⟨positive, environment, rfl, after, before⟩
    exact ⟨_, ⟨rfl, positive⟩, (), environment, (), le_rfl, (), le_rfl, _, rfl, _, rfl, _, rfl, (),
      after, before⟩

namespace ExecutionEpochStateRow

/-- The part of `trg_execution_epoch_state_v1_update_guard` about a new lease, on datetimes. -/
def ReacquiresAt (old new : ExecutionEpochStateRow) (db : Database)
    (expires updated : UtcDatetime) : Prop :=
  new.status = .active ∧ new.currentEpoch = old.currentEpoch + 1 ∧
    new.currentLeaseId ≠ old.currentLeaseId ∧ new.currentLeaseDigest ≠ old.currentLeaseDigest ∧
    expires ≤ updated ∧ new.completionDigest = none ∧
    new.completedAt = none ∧ new.completionClockWitnessDigest = none ∧
    new.completionClockWitness = none ∧ new.RepeatsLease db

/-- The part of `trg_execution_epoch_state_v1_update_guard` about a completion, on datetimes. -/
def CompletesAt (old new : ExecutionEpochStateRow)
    (acquired expires completed : UtcDatetime) : Prop :=
  new.status = .completed ∧ new.currentEpoch = old.currentEpoch ∧
    new.currentLeaseId = old.currentLeaseId ∧ new.currentLeaseDigest = old.currentLeaseDigest ∧
    new.currentLeaseAcquiredAt = old.currentLeaseAcquiredAt ∧
    new.currentLeaseExpiresAt = old.currentLeaseExpiresAt ∧ new.completionDigest ≠ none ∧
    Within acquired expires completed ∧
    new.completionClockWitnessDigest ≠ none ∧ new.completionClockWitness ≠ none

variable {datetimes : DatetimeParser} {old new : ExecutionEpochStateRow}
  {acquired expires time : UtcDatetime}

theorem reacquires_iff {db : Database} (stops : datetimes.Accepts old.currentLeaseExpiresAt expires)
    (now : datetimes.Accepts new.updatedAt time) :
    Reacquires old new db ↔ ReacquiresAt old new db expires time := by
  rw [Reacquires, ReacquiresAt, DatetimeParser.le_iff stops now]

theorem completes_iff {completedAt : String}
    (starts : datetimes.Accepts old.currentLeaseAcquiredAt acquired)
    (stops : datetimes.Accepts old.currentLeaseExpiresAt expires)
    (stored : new.completedAt = some completedAt) (now : datetimes.Accepts completedAt time) :
    Completes old new ↔ CompletesAt old new acquired expires time := by
  simp only [Completes, CompletesAt, stored, Option.mem_some_iff, forall_eq', ne_eq, reduceCtorEq,
    not_false_eq_true, true_and, DatetimeParser.within_iff starts stops now]

end ExecutionEpochStateRow

theorem raiseIf_congr {left right : Prop} [Decidable left] [Decidable right] (same : left ↔ right)
    (error : Raised) : raiseIf left error = raiseIf right error := by
  by_cases holds : left
  · rw [raiseIf, raiseIf, if_pos holds, if_pos (same.mp holds)]
  · rw [raiseIf, raiseIf, if_neg holds, if_neg (mt same.mpr holds)]

namespace DurableExecutionLeaseService

/-- `previousLease`, with the fence's reading of both timestamps. -/
def previousLeaseAt (service : DurableExecutionLeaseService) (datetimes : DatetimeParser)
    (sha256 : String → String) (db : Database) (admission : DispatchInboxAdmission)
    (clockWitness : ClockWitness) (state : ExecutionEpochStateRow) :
    Except Raised ExecutionLease := do
  service.assertStateBound state admission
  raiseIf (state.status = .completed) (denied "EXECUTION_ALREADY_COMPLETED")
  let previous ← loadLease sha256 db state.currentLeaseId admission
  assertStateMatchesLease state previous
  let expires ← datetimes.requireTimestamp (.str previous.expiresAt) "expires_at"
  let observed ← datetimes.requireTimestamp (.str clockWitness.observedAt) "observed_at"
  raiseIf (¬expires.2 ≤ observed.2) (denied "LEASE_STILL_ACTIVE")
  return previous

end DurableExecutionLeaseService

namespace LineageRows

variable (rows : LineageRows)

/-- `_validate_grant_supporting_witnesses`, on datetimes. -/
def validateGrantSupportingWitnessesAt (grant : ExecutionGrantV2)
    (conformance : ExecutionConformanceWitness) (clock : ClockWitness)
    (issued expires observed : UtcDatetime) : Except Raised Unit := do
  rows.grant.requireProjection (grantWitnessesExpected conformance clock)
    (resumeDenied "GRANT_SUPPORTING_WITNESS_ROW_INVALID")
  raiseIf (witnessConformance conformance ++ [clock.environment] ≠
      grantConformance grant ++ [grant.environment])
    (resumeDenied "GRANT_SUPPORTING_WITNESS_MISMATCH")
  raiseIf (¬Within issued expires observed) (resumeDenied "GRANT_STORE_CLOCK_OUTSIDE_VALIDITY")

/-- `_validate_consumption_supporting_witnesses`, on datetimes. -/
def validateConsumptionSupportingWitnessesAt (grant : ExecutionGrantV2)
    (consumption : GrantConsumptionWitness) (conformance : ExecutionConformanceWitness)
    (clock : ClockWitness) (issued expires observed : UtcDatetime) : Except Raised Unit := do
  raiseIf (conformance.witnessDigest :: witnessConformance conformance ++
        [clock.witnessDigest, clock.environment, clock.observedAt] ≠
      consumption.conformanceWitnessDigest :: grantConformance grant ++
        [consumption.clockWitnessDigest, grant.environment, consumption.consumedAt])
    (resumeDenied "CONSUMPTION_SUPPORTING_WITNESS_MISMATCH")
  raiseIf (¬Within issued expires observed)
    (resumeDenied "CONSUMPTION_CLOCK_OUTSIDE_GRANT_VALIDITY")

end LineageRows

/-- `_validate_lease_supporting_clock_witness`, on datetimes. -/
def LineageDocuments.validateLeaseClockAt (documents : LineageDocuments)
    (acquired observed : UtcDatetime) : Except Raised Unit :=
  raiseIf (¬(([documents.leaseClock.witnessDigest, documents.leaseClock.environment] =
      [documents.lease.clockWitnessDigest, documents.lease.environment]) ∧ observed = acquired))
    (resumeDenied "LEASE_CLOCK_WITNESS_MISMATCH")

theorem bind_congr_ok {α β : Type} {first : Except Raised α} {next other : α → Except Raised β}
    (same : ∀ value, first = .ok value → next value = other value) :
    first >>= next = first >>= other := by
  cases first with
  | error => rfl
  | ok value => exact same value rfl

/-- A stored lease that is loaded has timestamps that the fence reads. -/
theorem DurableExecutionLeaseService.loadLease_accepts {sha256 : String → String} {db : Database}
    {leaseId : String} {admission : DispatchInboxAdmission} {lease : ExecutionLease}
    (datetimes : DatetimeParser) (loaded : loadLease sha256 db leaseId admission = .ok lease) :
    ∃ expires, datetimes.Accepts lease.expiresAt expires := by
  simp only [loadLease, decodeLease, bind_eq_ok, catching_eq_ok, pure_eq_ok] at loaded
  obtain ⟨_, _, _, ⟨_, read, _, _, _, _, rfl⟩, _, _, rfl⟩ := loaded
  have built : ExecutionLease.contract.Built sha256 _ := ⟨_, Contract.construct_of_fromDict read⟩
  have checked := built.checked
  simp only [ExecutionLease.contract, bind_eq_ok, requireTimestamp_eq_ok, Json.str.injEq] at checked
  obtain ⟨_, _, expires, ⟨rendered, _⟩, _⟩ := checked
  exact ⟨_, DatetimeParser.accepts_iff.mpr ⟨expires, rendered, rfl⟩⟩

/-- Every comparison of stored timestamps as texts decides the fence's comparison of datetimes. -/
structure TextsDecide (datetimes : DatetimeParser) (sha256 : String → String) : Prop where
  order : ∀ left right first second, datetimes.Accepts left first → datetimes.Accepts right second →
      (left < right ↔ first < second) ∧ (left = right ↔ first = second)
  fence : ∀ (lease : ExecutionLease) current clockWitness acquired expires observed,
    datetimes.Accepts lease.acquiredAt acquired → datetimes.Accepts lease.expiresAt expires →
      datetimes.Accepts clockWitness.observedAt observed →
        (lease.completionFence datetimes current clockWitness = .ok () ↔
          1 ≤ current ∧ clockWitness.environment = lease.environment ∧
            lease.executionEpoch = current ∧ Within acquired expires observed)
  renewalGuard : ∀ (old new : ExecutionEpochStateRow) db expires updated,
    datetimes.Accepts old.currentLeaseExpiresAt expires → datetimes.Accepts new.updatedAt updated →
      (old.Reacquires new db ↔ old.ReacquiresAt new db expires updated)
  completionGuard : ∀ (old new : ExecutionEpochStateRow) completedAt acquired expires completed,
    datetimes.Accepts old.currentLeaseAcquiredAt acquired →
      datetimes.Accepts old.currentLeaseExpiresAt expires → new.completedAt = some completedAt →
        datetimes.Accepts completedAt completed →
          (old.Completes new ↔ old.CompletesAt new acquired expires completed)
  renewal : ∀ (service : DurableExecutionLeaseService) db admission clockWitness state observed,
    datetimes.Accepts clockWitness.observedAt observed →
      service.previousLease sha256 db admission clockWitness state =
        service.previousLeaseAt datetimes sha256 db admission clockWitness state
  grantWindow : ∀ (rows : LineageRows) (grant : ExecutionGrantV2) conformance (clock : ClockWitness)
      issued expires observed, datetimes.Accepts grant.issuedAt issued →
    datetimes.Accepts grant.expiresAt expires → datetimes.Accepts clock.observedAt observed →
      rows.validateGrantSupportingWitnesses grant conformance clock =
        rows.validateGrantSupportingWitnessesAt grant conformance clock issued expires observed
  consumptionWindow : ∀ (grant : ExecutionGrantV2) consumption conformance (clock : ClockWitness)
      issued expires observed, datetimes.Accepts grant.issuedAt issued →
    datetimes.Accepts grant.expiresAt expires → datetimes.Accepts clock.observedAt observed →
      LineageRows.validateConsumptionSupportingWitnesses grant consumption conformance clock =
        LineageRows.validateConsumptionSupportingWitnessesAt grant consumption conformance clock
          issued expires observed
  leaseClock : ∀ (documents : LineageDocuments) acquired observed,
    datetimes.Accepts documents.lease.acquiredAt acquired →
      datetimes.Accepts documents.leaseClock.observedAt observed →
        documents.validateLeaseClock = documents.validateLeaseClockAt acquired observed

theorem textsDecide (datetimes : DatetimeParser) (sha256 : String → String) :
    TextsDecide datetimes sha256 where
  order _ _ _ _ one two := ⟨DatetimeParser.lt_iff one two, DatetimeParser.eq_iff one two⟩
  fence _ _ _ _ _ _ starts stops now := ExecutionLease.completionFence_eq_ok starts stops now
  renewalGuard _ _ _ _ _ stops now := ExecutionEpochStateRow.reacquires_iff stops now
  completionGuard _ _ _ _ _ _ starts stops stored now :=
    ExecutionEpochStateRow.completes_iff starts stops stored now
  renewal service db admission clockWitness state observed now := by
    refine bind_congr_ok fun _ _ => bind_congr_ok fun _ _ => bind_congr_ok fun previous loaded =>
      bind_congr_ok fun _ _ => ?_
    obtain ⟨expires, stops⟩ := DurableExecutionLeaseService.loadLease_accepts datetimes loaded
    have same : clockWitness.observedAt < previous.expiresAt ↔ ¬expires ≤ observed := by
      rw [DatetimeParser.lt_iff now stops, not_le]
    rw [stops.require, now.require, ok_bind, ok_bind, raiseIf_congr same]
  grantWindow _ _ _ _ _ _ _ starts stops now := by
    refine bind_congr_ok fun _ _ => bind_congr_ok fun _ _ => raiseIf_congr ?_ _
    rw [DatetimeParser.within_iff starts stops now]
  consumptionWindow _ _ _ _ _ _ _ starts stops now := by
    refine bind_congr_ok fun _ _ => raiseIf_congr ?_ _
    rw [DatetimeParser.within_iff starts stops now]
  leaseClock documents acquired observed starts now := by
    refine raiseIf_congr ?_ _
    simp only [ne_eq, List.cons.injEq, DatetimeParser.eq_iff now starts, and_true, and_assoc]

end VoodooOne
