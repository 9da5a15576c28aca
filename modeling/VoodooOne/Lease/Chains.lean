import VoodooOne.Lease.Service
import VoodooOne.Library.LeaseChain

/-!
# Lease rows as chains

The lease rows and the epoch state of an admission represent one lease chain, and lease calls keep
this.
-/

namespace VoodooOne

open Calendar DurableExecutionLeaseService

def leasesOf (db : Database) (admission : String) : List ExecutionLeaseRow :=
  db.executionLeases.filter fun lease => lease.admissionId = admission

/-- The number of the current lease of an admission, zero before the first. -/
def currentEpoch (db : Database) (admission : String) : Int :=
  (stateOf db admission).elim 0 (·.currentEpoch)

/-- The epochs `1` to `last`. -/
def epochsUpTo (last : Int) : List Int :=
  (List.range last.toNat).map fun index : Nat => (index : Int) + 1

/-- The columns of a lease that a chain shows. -/
def ExecutionLeaseRow.shown (lease : ExecutionLeaseRow) : Int × String × String :=
  (lease.executionEpoch, lease.acquiredAt, lease.expiresAt)

/-- The columns of the lease at a place of a chain. -/
def shownAt (index : Nat) (interval : Instant × Instant) : Int × String × String :=
  ((index : Int) + 1, interval.1.isoformat, interval.2.isoformat)

structure Represents (db : Database) (admission : String) (chain : LeaseChain Instant) : Prop where
  /-- Each lease row is one interval, numbered from 1. -/
  leases : (leasesOf db admission).map (·.shown) = chain.intervals.mapIdx shownAt
  /-- Without an epoch state there is no lease. -/
  unleased : stateOf db admission = none → chain.intervals = [] ∧ chain.completion = none
  /-- The epoch state counts the leases. -/
  counted : ∀ state, stateOf db admission = some state → state.currentEpoch = chain.intervals.length
  /-- The epoch state repeats a lease row. -/
  repeated : ∀ state, stateOf db admission = some state →
    ∃ lease ∈ leasesOf db admission, state.Repeats lease
  /-- An active admission is not completed. -/
  active : ∀ state, stateOf db admission = some state → state.status = .active →
    chain.completion = none
  /-- A completed one was completed at the recorded time. -/
  completed : ∀ state, stateOf db admission = some state → state.status = .completed →
    ∃ time ∈ chain.completion, state.completedAt = some time.isoformat

/-- What every lease call keeps. -/
structure LeaseInvariant (db : Database) : Prop where
  /-- One epoch state for each admission. -/
  stateKeys : Table.Keyed (·.admissionId) db.executionEpochState
  /-- One row for each lease. -/
  leaseKeys : Table.Keyed (·.leaseId) db.executionLeases
  /-- Every admission represents a chain. -/
  represented : ∀ admission, ∃ chain, Represents db admission chain

theorem leasesOf_granted (db : Database) (lease : ExecutionLeaseRow)
    (states : List ExecutionEpochStateRow) (admission : String) :
    leasesOf (granted db lease states) admission =
      leasesOf db admission ++ if lease.admissionId = admission then [lease] else [] := by
  by_cases same : lease.admissionId = admission <;>
    simp [leasesOf, granted, List.filter_append, same]

theorem stateOf_append {db : Database} {lease : ExecutionLeaseRow} {state : ExecutionEpochStateRow}
    (admission : String) :
    stateOf (granted db lease (db.executionEpochState ++ [state])) admission =
      (stateOf db admission).or (if state.admissionId = admission then some state else none) := by
  simp only [stateOf, granted, Database.setExecutionEpochState_executionEpochState]
  exact Table.lookup_append

theorem stateOf_withEpochState {db : Database} {old new : ExecutionEpochStateRow}
    (found : stateOf db new.admissionId = some old) (admission : String) :
    stateOf (withEpochState db new) admission =
      if admission = new.admissionId then some new else stateOf db admission :=
  Table.lookup_replace_found found

theorem stateOf_granted_replace {db : Database} (lease : ExecutionLeaseRow)
    {old new : ExecutionEpochStateRow} (found : stateOf db new.admissionId = some old)
    (admission : String) :
    stateOf (granted db lease (Table.replace (·.admissionId) db.executionEpochState new))
        admission =
      if admission = new.admissionId then some new else stateOf db admission :=
  Table.lookup_replace_found found

namespace Represents

variable {db : Database} {admission : String} {chain : LeaseChain Instant}

theorem length_eq (represents : Represents db admission chain) :
    (leasesOf db admission).length = chain.intervals.length := by
  simpa using congrArg List.length represents.leases

theorem currentEpoch_eq (represents : Represents db admission chain) :
    currentEpoch db admission = chain.intervals.length := by
  unfold currentEpoch
  cases found : stateOf db admission with
  | none => simp [(represents.unleased found).1]
  | some state => exact represents.counted state found

theorem interval_of_mem (represents : Represents db admission chain) {lease : ExecutionLeaseRow}
    (member : lease ∈ leasesOf db admission) :
    ∃ index, ∃ bound : index < chain.intervals.length,
      lease.executionEpoch = (index : Int) + 1 ∧
        lease.acquiredAt = chain.intervals[index].1.isoformat ∧
          lease.expiresAt = chain.intervals[index].2.isoformat := by
  have shown : lease.shown ∈ chain.intervals.mapIdx shownAt := by
    rw [← represents.leases]
    exact List.mem_map_of_mem member
  obtain ⟨index, bound, same⟩ := List.mem_mapIdx.mp shown
  simp only [shownAt, ExecutionLeaseRow.shown, Prod.mk.injEq] at same
  exact ⟨index, bound, same.1.symm, same.2.1.symm, same.2.2.symm⟩

theorem current_last (represents : Represents db admission chain)
    {state : ExecutionEpochStateRow} (found : stateOf db admission = some state) :
    ∃ last, chain.intervals.getLast? = some last ∧ state.currentLeaseAcquiredAt = last.1.isoformat ∧
        state.currentLeaseExpiresAt = last.2.isoformat := by
  obtain ⟨lease, member, same⟩ := represents.repeated state found
  obtain ⟨index, bound, epoch, start, stop⟩ := represents.interval_of_mem member
  have counted := represents.counted state found
  have place : index = chain.intervals.length - 1 := by
    have := same.epoch
    omega
  refine ⟨chain.intervals[index], ?_, ?_, ?_⟩
  · rw [List.getLast?_eq_getElem?, ← place]
    exact List.getElem?_eq_getElem bound
  · rw [← same.acquired, start]
  · rw [← same.expires, stop]

theorem congr {next : Database} (represents : Represents db admission chain)
    (leases : leasesOf next admission = leasesOf db admission)
    (state : stateOf next admission = stateOf db admission) :
    Represents next admission chain := by
  constructor
  · rw [leases]
    exact represents.leases
  · rw [state]
    exact represents.unleased
  · rw [state]
    exact represents.counted
  · rw [state, leases]
    exact represents.repeated
  · rw [state]
    exact represents.active
  · rw [state]
    exact represents.completed

theorem grant {next : Database} (represents : Represents db admission chain)
    {lease : ExecutionLeaseRow} {state : ExecutionEpochStateRow} {acquired expires : Instant}
    (proper : acquired < expires) (uncompleted : chain.completion = none)
    (after : ∀ last ∈ chain.intervals.getLast?, last.2 ≤ acquired)
    (leases : leasesOf next admission = leasesOf db admission ++ [lease])
    (found : stateOf next admission = some state) (start : lease.acquiredAt = acquired.isoformat)
    (stop : lease.expiresAt = expires.isoformat)
    (epoch : lease.executionEpoch = (chain.intervals.length : Int) + 1)
    (repeated : state.Repeats lease) (active : state.status = .active) :
    Represents next admission (chain.grant acquired expires proper uncompleted after) := by
  constructor
  · rw [leases, List.map_append, represents.leases]
    simp [LeaseChain.grant, List.mapIdx_append, ExecutionLeaseRow.shown, shownAt, start, stop,
      epoch]
  · rw [found]
    simp
  · intro other same
    obtain rfl : state = other := by rwa [found, Option.some.injEq] at same
    rw [← repeated.epoch, epoch]
    simp [LeaseChain.grant]
  · intro other same
    obtain rfl : state = other := by rwa [found, Option.some.injEq] at same
    exact ⟨lease, by simp [leases], repeated⟩
  · intro _ _ _
    exact uncompleted
  · intro other same finished
    obtain rfl : state = other := by rwa [found, Option.some.injEq] at same
    rw [active] at finished
    cases finished

theorem complete {next : Database} (represents : Represents db admission chain)
    {old new : ExecutionEpochStateRow} {time : Instant} (wasFound : stateOf db admission = some old)
    (completes : CompletesState db old new time)
    (leases : leasesOf next admission = leasesOf db admission)
    (found : stateOf next admission = some new) :
    ∃ completed, Represents next admission completed := by
  obtain ⟨last, isLast, start, stop⟩ := represents.current_last wasFound
  have inside := completes.inside
  rw [start, stop, Instant.isoformat_le_isoformat, Instant.isoformat_lt_isoformat] at inside
  obtain ⟨lease, member, same⟩ := represents.repeated old wasFound
  have repeats := (completes.repeated lease).mp same
  refine ⟨chain.complete time ⟨last, isLast, inside⟩, ?_, ?_, ?_, ?_, ?_, ?_⟩
  · rw [leases]
    exact represents.leases
  · rw [found]
    simp
  · intro other otherFound
    obtain rfl : new = other := by rwa [found, Option.some.injEq] at otherFound
    rw [← repeats.epoch, same.epoch]
    exact represents.counted old wasFound
  · intro other otherFound
    obtain rfl : new = other := by rwa [found, Option.some.injEq] at otherFound
    rw [leases]
    exact ⟨lease, member, repeats⟩
  · intro other otherFound active
    obtain rfl : new = other := by rwa [found, Option.some.injEq] at otherFound
    rw [completes.completed] at active
    cases active
  · intro other otherFound _
    obtain rfl : new = other := by rwa [found, Option.some.injEq] at otherFound
    exact ⟨time, rfl, completes.completedAt⟩

end Represents

theorem LeaseInvariant.grant {db next : Database} (invariant : LeaseInvariant db)
    (grant : LeaseGrant db next) : LeaseInvariant next := by
  cases grant with
  | first lease state acquired expires unleased fresh start stop proper epoch repeated active =>
      have stateFresh : ∀ row ∈ db.executionEpochState, row.admissionId ≠ state.admissionId := by
        rw [← repeated.admission]
        exact Table.lookup_eq_none.mp unleased
      refine ⟨invariant.stateKeys.append stateFresh,
        invariant.leaseKeys.append fun row member => (fresh row member).1, fun admission => ?_⟩
      obtain ⟨chain, represents⟩ := invariant.represented admission
      by_cases same : lease.admissionId = admission
      · subst same
        obtain ⟨empty, uncompleted⟩ := represents.unleased unleased
        refine ⟨_, represents.grant proper uncompleted (by simp [empty]) ?_ ?_ start stop ?_
          repeated active⟩
        · rw [leasesOf_granted, if_pos rfl]
        · rw [stateOf_append, unleased, if_pos repeated.admission.symm]
          rfl
        · simp [epoch, empty]
      · refine ⟨chain, represents.congr ?_ ?_⟩
        · rw [leasesOf_granted, if_neg same, List.append_nil]
        · rw [stateOf_append, if_neg (repeated.admission ▸ same), Option.or_none]
  | next lease old new acquired expires current wasActive fresh start stop proper expired epoch
      repeated active =>
      refine ⟨invariant.stateKeys.replace,
        invariant.leaseKeys.append fun row member => (fresh row member).1, fun admission => ?_⟩
      obtain ⟨chain, represents⟩ := invariant.represented admission
      have state := stateOf_granted_replace lease (repeated.admission ▸ current) admission
      by_cases same : lease.admissionId = admission
      · subst same
        obtain ⟨last, isLast, _, ends⟩ := represents.current_last current
        refine ⟨_, represents.grant proper (represents.active old current wasActive) ?_ ?_ ?_
          start stop ?_ repeated active⟩
        · intro other otherLast
          obtain rfl : last = other := by rwa [isLast, Option.mem_some_iff] at otherLast
          rwa [ends, Instant.isoformat_le_isoformat] at expired
        · rw [leasesOf_granted, if_pos rfl]
        · exact state.trans (if_pos repeated.admission)
        · rw [epoch, represents.counted old current]
      · refine ⟨chain, represents.congr ?_ ?_⟩
        · rw [leasesOf_granted, if_neg same, List.append_nil]
        · exact state.trans (if_neg fun other => same (repeated.admission.trans other.symm))

theorem LeaseInvariant.complete {db : Database} (invariant : LeaseInvariant db)
    {old new : ExecutionEpochStateRow} {time : Instant}
    (completes : CompletesState db old new time) :
    LeaseInvariant (withEpochState db new) := by
  refine ⟨invariant.stateKeys.replace, invariant.leaseKeys, fun admission => ?_⟩
  obtain ⟨chain, represents⟩ := invariant.represented admission
  have found : stateOf db new.admissionId = some old := by
    rw [completes.admission]
    exact completes.current
  have state := stateOf_withEpochState found admission
  by_cases same : admission = new.admissionId
  · subst same
    exact represents.complete found completes rfl (state.trans (if_pos rfl))
  · exact ⟨chain, represents.congr rfl (state.trans (if_neg same))⟩

end VoodooOne
