import VoodooOne.Lease.Chains

/-!
# Safety of execution leases

Any number of workers acquire and complete leases, in any order and with any clock readings.  In
every reachable database the leases of an admission are numbered without a gap, never overlap, and
at most one of them, the current one, is ever completed.
-/

namespace VoodooOne

open Calendar DurableExecutionLeaseService

/-- One call of a worker, with its service and what its clock returns. -/
inductive LeaseCall where
  | acquire (service : DurableExecutionLeaseService) (admissionId : String)
      (reading : ClockReading)
  | complete (service : DurableExecutionLeaseService) (leaseId completionDigest : String)
      (reading : ClockReading)

/-- What a call returns or raises. -/
inductive LeaseReply where
  | acquired (reply : Except Raised DurableExecutionLeaseResult)
  | completed (reply : Except Raised DurableExecutionCompletionResult)

/-- The database and the replies so far. -/
structure LeaseWorld where
  db : Database
  /-- Replies, oldest first. -/
  replies : List LeaseReply

def LeaseReply.completion? : LeaseReply → Option (String × String)
  | .completed (.ok result) =>
      if result.outcome = .completed then some (result.lease.admissionId, result.lease.leaseId)
      else none
  | _ => none

def LeaseWorld.step (sha256 : String → String) (world : LeaseWorld) : LeaseCall → LeaseWorld
  | .acquire service admissionId reading =>
      let outcome := Transaction.commit (service.acquire sha256 admissionId reading) world.db
      ⟨outcome.2, world.replies ++ [.acquired outcome.1]⟩
  | .complete service leaseId completionDigest reading =>
      let outcome :=
        Transaction.commit (service.complete sha256 leaseId completionDigest reading) world.db
      ⟨outcome.2, world.replies ++ [.completed outcome.1]⟩

def LeaseWorld.start (store : Database) : LeaseWorld :=
  ⟨(store.setExecutionLeases []).setExecutionEpochState [], []⟩

/-- The leases of an admission under which a completion was reported as new. -/
def completionsOf (replies : List LeaseReply) (admission : String) : List String :=
  (replies.filterMap LeaseReply.completion?).filterMap fun completion =>
    if completion.1 = admission then some completion.2 else none

def recordedCompletion : Option ExecutionEpochStateRow → List String
  | some state => if state.status = .completed then [state.currentLeaseId] else []
  | none => []

inductive LeaseStep (world : LeaseWorld) : LeaseWorld → Prop where
  /-- Nothing changes. -/
  | kept (reply : LeaseReply) (silent : reply.completion? = none) :
      LeaseStep world ⟨world.db, world.replies ++ [reply]⟩
  | granted (reply : LeaseReply) (silent : reply.completion? = none) (db : Database)
      (grant : LeaseGrant world.db db) : LeaseStep world ⟨db, world.replies ++ [reply]⟩
  /-- The current lease of an admission is completed. -/
  | completed (reply : LeaseReply) (lease : ExecutionLeaseRow) (old new : ExecutionEpochStateRow)
      (time : Instant) (completes : CompletesState world.db old new time)
      (repeats : old.Repeats lease)
      (reported : reply.completion? = some (lease.admissionId, lease.leaseId)) :
      LeaseStep world ⟨withEpochState world.db new, world.replies ++ [reply]⟩

theorem LeaseWorld.step_cases {sha256 : String → String} {world : LeaseWorld} (call : LeaseCall)
    (keyed : Table.Keyed (·.admissionId) world.db.executionEpochState) :
    LeaseStep world (world.step sha256 call) := by
  cases call with
  | acquire service admissionId reading =>
      cases returned : service.acquire sha256 admissionId reading world.db with
      | error error =>
          simp only [step, Transaction.commit_of_error returned]
          exact .kept _ rfl
      | ok outcome =>
          obtain ⟨result, db⟩ := outcome
          simp only [step, Transaction.commit_of_ok returned]
          exact .granted _ rfl db (acquire_grant keyed returned)
  | complete service leaseId completionDigest reading =>
      cases returned : service.complete sha256 leaseId completionDigest reading world.db with
      | error error =>
          simp only [step, Transaction.commit_of_error returned]
          exact .kept _ rfl
      | ok outcome =>
          obtain ⟨result, db⟩ := outcome
          simp only [step, Transaction.commit_of_ok returned]
          obtain ⟨lease, _, leaseSame, resultSame, admissionSame, old, _, repeats, effect⟩ :=
            complete_current keyed returned
          rcases effect with ⟨duplicate, rfl⟩ | ⟨completed, new, time, completes, rfl⟩
          · exact .kept _ (by simp [LeaseReply.completion?, duplicate])
          · exact .completed _ lease old new time completes repeats (by
              simp [LeaseReply.completion?, completed, leaseSame, resultSame, admissionSame])

/-- What every step keeps. -/
structure LeaseWorldInvariant (world : LeaseWorld) : Prop where
  /-- The tables represent chains. -/
  tables : LeaseInvariant world.db
  /-- The replies report exactly the recorded completions. -/
  reported : ∀ admission,
    completionsOf world.replies admission = recordedCompletion (stateOf world.db admission)

theorem completionsOf_append (replies : List LeaseReply) (reply : LeaseReply)
    (admission : String) : completionsOf (replies ++ [reply]) admission =
      completionsOf replies admission ++ completionsOf [reply] admission := by
  simp [completionsOf]

theorem completionsOf_silent {reply : LeaseReply} (silent : reply.completion? = none)
    (admission : String) : completionsOf [reply] admission = [] := by
  simp [completionsOf, silent]

theorem LeaseGrant.recordedCompletion_eq {db next : Database} (grant : LeaseGrant db next)
    (admission : String) :
    recordedCompletion (stateOf next admission) = recordedCompletion (stateOf db admission) := by
  cases grant with
  | first lease state acquired expires unleased fresh start stop proper epoch repeated active =>
      rw [stateOf_append]
      by_cases same : state.admissionId = admission
      · rw [← same, ← repeated.admission, unleased, if_pos rfl]
        simp [recordedCompletion, active]
      · rw [if_neg same, Option.or_none]
  | next lease old new acquired expires current wasActive fresh start stop proper expired epoch
      repeated active =>
      rw [stateOf_granted_replace lease (repeated.admission ▸ current)]
      split
      · next same =>
        rw [same, ← repeated.admission, current]
        simp [recordedCompletion, active, wasActive]
      · rfl

theorem LeaseWorldInvariant.step {world next : LeaseWorld} (invariant : LeaseWorldInvariant world)
    (step : LeaseStep world next) : LeaseWorldInvariant next := by
  cases step with
  | kept reply silent =>
      refine ⟨invariant.tables, fun admission => ?_⟩
      rw [completionsOf_append, completionsOf_silent silent, List.append_nil]
      exact invariant.reported admission
  | granted reply silent db grant =>
      refine ⟨invariant.tables.grant grant, fun admission => ?_⟩
      rw [completionsOf_append, completionsOf_silent silent, List.append_nil,
        grant.recordedCompletion_eq]
      exact invariant.reported admission
  | completed reply lease old new time completes repeats reported =>
      refine ⟨invariant.tables.complete completes, fun admission => ?_⟩
      have found : stateOf world.db new.admissionId = some old := by
        rw [completes.admission]
        exact completes.current
      have newRepeats := (completes.repeated lease).mp repeats
      rw [completionsOf_append, invariant.reported, stateOf_withEpochState found]
      by_cases same : admission = new.admissionId
      · subst same
        simp [completionsOf, reported, found, recordedCompletion, completes.wasActive,
          completes.completed, newRepeats.admission, newRepeats.identity]
      · have other : lease.admissionId ≠ admission := by
          rw [newRepeats.admission]
          exact Ne.symm same
        simp [completionsOf, reported, same, other]

theorem LeaseWorldInvariant.start (store : Database) :
    LeaseWorldInvariant (LeaseWorld.start store) where
  tables := by
    refine ⟨Table.keyed_nil, Table.keyed_nil, fun admission => ⟨.empty, ?_⟩⟩
    constructor <;> simp [LeaseWorld.start, leasesOf, stateOf, Table.lookup, LeaseChain.empty]
  reported admission := by
    simp [LeaseWorld.start, completionsOf, stateOf, Table.lookup, recordedCompletion]

theorem LeaseWorldInvariant.run (sha256 : String → String) {world : LeaseWorld}
    (invariant : LeaseWorldInvariant world) (calls : List LeaseCall) :
    LeaseWorldInvariant (Transaction.run (LeaseWorld.step sha256) world calls) :=
  Transaction.run_invariant
    (fun _ call held => held.step (LeaseWorld.step_cases call held.tables.stateKeys))
    invariant calls

def ExecutionLeaseRow.inForce (lease : ExecutionLeaseRow) : Set Instant :=
  {moment | lease.acquiredAt ≤ moment.isoformat ∧ moment.isoformat < lease.expiresAt}

/-- The lease tables and the replies about one admission. -/
structure LeaseSafety (world : LeaseWorld) (admission : String) : Prop where
  /-- The leases carry the epochs from 1 to the current one, once each. -/
  epochs : (leasesOf world.db admission).map (·.executionEpoch) =
    epochsUpTo (currentEpoch world.db admission)
  /-- The epoch state repeats the lease of its epoch. -/
  repeated : ∀ state, stateOf world.db admission = some state →
    ∃ lease ∈ leasesOf world.db admission, state.Repeats lease
  /-- Every lease starts before it ends. -/
  proper : ∀ lease ∈ leasesOf world.db admission, ∃ acquired expires,
    Instant.ofIsoformat? lease.acquiredAt = some acquired ∧
      Instant.ofIsoformat? lease.expiresAt = some expires ∧ acquired < expires
  /-- A lease starts when all earlier ones have ended. -/
  ordered : (leasesOf world.db admission).Pairwise fun earlier later => ∃ ended started,
    Instant.ofIsoformat? earlier.expiresAt = some ended ∧
      Instant.ofIsoformat? later.acquiredAt = some started ∧ ended ≤ started
  /-- No two leases are in force together. -/
  disjoint : (leasesOf world.db admission).Pairwise fun earlier later =>
    Disjoint earlier.inForce later.inForce
  /-- At most one completion was reported, under the current lease. -/
  reported : completionsOf world.replies admission =
    recordedCompletion (stateOf world.db admission)
  /-- A completion lies inside the current lease. -/
  inside : ∀ state, stateOf world.db admission = some state → state.status = .completed →
    ∃ lease ∈ leasesOf world.db admission, state.Repeats lease ∧
      ∃ moment ∈ lease.inForce, state.completedAt = some moment.isoformat

theorem Represents.shown_getElem {db : Database} {admission : String} {chain : LeaseChain Instant}
    (represents : Represents db admission chain) {index : Nat}
    (bound : index < (leasesOf db admission).length)
    (inChain : index < chain.intervals.length) :
    (leasesOf db admission)[index].shown = shownAt index chain.intervals[index] := by
  have same := congrArg (·[index]?) represents.leases
  simpa [List.getElem?_eq_getElem bound, List.getElem?_eq_getElem inChain] using same

theorem ExecutionLeaseRow.inForce_eq {lease : ExecutionLeaseRow} {index : Nat}
    {interval : Instant × Instant} (shown : lease.shown = shownAt index interval) :
    lease.inForce = Set.Ico interval.1 interval.2 := by
  simp only [ExecutionLeaseRow.shown, shownAt, Prod.mk.injEq] at shown
  ext moment
  simp only [inForce, shown, Set.mem_ofPred_eq, Set.mem_Ico, Instant.isoformat_le_isoformat,
    Instant.isoformat_lt_isoformat]

theorem epochsUpTo_length (chain : LeaseChain Instant) : epochsUpTo chain.intervals.length =
      (chain.intervals.mapIdx shownAt).map fun shown => shown.1 := by
  apply List.ext_getElem
  · simp [epochsUpTo]
  · intro index _ _
    simp only [epochsUpTo, Int.toNat_natCast, List.getElem_map, List.getElem_range,
      List.getElem_mapIdx, shownAt]

theorem Represents.pairwise {db : Database} {admission : String} {chain : LeaseChain Instant}
    (represents : Represents db admission chain)
    {intervals : Instant × Instant → Instant × Instant → Prop}
    {leases : ExecutionLeaseRow → ExecutionLeaseRow → Prop}
    (holds : chain.intervals.Pairwise intervals)
    (shows : ∀ {earlier later : ExecutionLeaseRow} {first second : Nat}
      {before after : Instant × Instant}, earlier.shown = shownAt first before →
      later.shown = shownAt second after → intervals before after → leases earlier later) :
    (leasesOf db admission).Pairwise leases := by
  rw [List.pairwise_iff_getElem] at holds ⊢
  intro first second firstBound secondBound less
  have lengths := represents.length_eq
  exact shows (represents.shown_getElem firstBound (by omega))
    (represents.shown_getElem secondBound (by omega)) (holds first second _ _ less)

theorem LeaseWorldInvariant.safety {world : LeaseWorld} (invariant : LeaseWorldInvariant world)
    (admission : String) : LeaseSafety world admission := by
  obtain ⟨chain, represents⟩ := invariant.tables.represented admission
  refine ⟨?_, represents.repeated, ?_, ?_, ?_, invariant.reported admission, ?_⟩
  · rw [represents.currentEpoch_eq, epochsUpTo_length, ← represents.leases, List.map_map]
    rfl
  · intro lease member
    obtain ⟨index, bound, _, start, stop⟩ := represents.interval_of_mem member
    exact ⟨_, _, Instant.ofIsoformat?_eq_some.mpr start.symm,
      Instant.ofIsoformat?_eq_some.mpr stop.symm,
      chain.proper _ (List.getElem_mem bound)⟩
  · refine represents.pairwise chain.ordered ?_
    intro earlier later first second before after earlierShown laterShown less
    simp only [ExecutionLeaseRow.shown, shownAt, Prod.mk.injEq] at earlierShown laterShown
    exact ⟨before.2, after.1, Instant.ofIsoformat?_eq_some.mpr earlierShown.2.2.symm,
      Instant.ofIsoformat?_eq_some.mpr laterShown.2.1.symm, less⟩
  · refine represents.pairwise chain.disjoint ?_
    intro earlier later first second before after earlierShown laterShown apart
    rwa [ExecutionLeaseRow.inForce_eq earlierShown, ExecutionLeaseRow.inForce_eq laterShown]
  · intro state found completed
    obtain ⟨time, completion, completedAt⟩ := represents.completed state found completed
    obtain ⟨last, isLast, start, stop⟩ := represents.current_last found
    obtain ⟨lease, member, repeats⟩ := represents.repeated state found
    obtain ⟨interval, sameLast, after, before⟩ := chain.inside time completion
    obtain rfl : last = interval := by rwa [isLast, Option.mem_some_iff] at sameLast
    refine ⟨lease, member, repeats, time, ?_, completedAt⟩
    rw [ExecutionLeaseRow.inForce, Set.mem_ofPred_eq, repeats.acquired, repeats.expires, start,
      stop]
    exact ⟨Instant.isoformat_le_isoformat.mpr after, Instant.isoformat_lt_isoformat.mpr before⟩

/-- How the tables of one admission change from one database to a later one. -/
structure LeaseProgress (admission : String) (db next : Database) : Prop where
  /-- Leases stay. -/
  kept : ∀ lease ∈ leasesOf db admission, lease ∈ leasesOf next admission
  /-- The current epoch does not go back. -/
  epoch : currentEpoch db admission ≤ currentEpoch next admission
  /-- A completed admission does not change. -/
  finished : ∀ state, stateOf db admission = some state → state.status = .completed →
    stateOf next admission = some state ∧ leasesOf next admission = leasesOf db admission

namespace LeaseProgress

variable {admission : String} {first second third : Database}

theorem refl (db : Database) : LeaseProgress admission db db :=
  ⟨fun _ member => member, le_refl _, fun _ found _ => ⟨found, rfl⟩⟩

theorem trans (early : LeaseProgress admission first second)
    (late : LeaseProgress admission second third) : LeaseProgress admission first third := by
  refine ⟨fun lease member => late.kept lease (early.kept lease member),
    early.epoch.trans late.epoch, fun state found completed => ?_⟩
  obtain ⟨middle, same⟩ := early.finished state found completed
  obtain ⟨last, again⟩ := late.finished state middle completed
  exact ⟨last, again.trans same⟩

/-- Tables of another admission do not change. -/
theorem of_same {db next : Database} (leases : leasesOf next admission = leasesOf db admission)
    (state : stateOf next admission = stateOf db admission) :
    LeaseProgress admission db next := by
  refine ⟨fun lease member => leases ▸ member, ?_, fun _ found _ => ⟨state.trans found, leases⟩⟩
  unfold currentEpoch
  rw [state]

end LeaseProgress

theorem LeaseGrant.progress {db next : Database} (grant : LeaseGrant db next)
    (admission : String) : LeaseProgress admission db next := by
  cases grant with
  | first lease state acquired expires unleased fresh start stop proper epoch repeated active =>
      by_cases same : lease.admissionId = admission
      · subst same
        refine ⟨fun other member => ?_, ?_, fun other found => ?_⟩
        · rw [leasesOf_granted]
          exact List.mem_append_left _ member
        · unfold currentEpoch
          rw [stateOf_append, unleased, if_pos repeated.admission.symm]
          simp [← repeated.epoch, epoch]
        · rw [unleased] at found
          cases found
      · apply LeaseProgress.of_same
        · rw [leasesOf_granted, if_neg same, List.append_nil]
        · rw [stateOf_append, if_neg (repeated.admission ▸ same), Option.or_none]
  | next lease old new acquired expires current wasActive fresh start stop proper expired epoch
      repeated active =>
      have state := stateOf_granted_replace lease (repeated.admission ▸ current) admission
      by_cases same : lease.admissionId = admission
      · subst same
        refine ⟨fun other member => ?_, ?_, fun other found completed => ?_⟩
        · rw [leasesOf_granted]
          exact List.mem_append_left _ member
        · unfold currentEpoch
          rw [state, if_pos repeated.admission, current]
          simp only [Option.elim_some, ← repeated.epoch, epoch]
          omega
        · obtain rfl : old = other := by rwa [current, Option.some.injEq] at found
          rw [wasActive] at completed
          cases completed
      · apply LeaseProgress.of_same
        · rw [leasesOf_granted, if_neg same, List.append_nil]
        · exact state.trans (if_neg fun other => same (repeated.admission.trans other.symm))

theorem CompletesState.progress {db : Database} {old new : ExecutionEpochStateRow} {time : Instant}
    (completes : CompletesState db old new time) {lease : ExecutionLeaseRow}
    (repeats : old.Repeats lease) (admission : String) :
    LeaseProgress admission db (withEpochState db new) := by
  have found : stateOf db new.admissionId = some old := by
    rw [completes.admission]
    exact completes.current
  have state := stateOf_withEpochState found admission
  by_cases same : admission = new.admissionId
  · subst same
    refine ⟨fun _ member => member, ?_, fun other otherFound completed => ?_⟩
    · have newRepeats := (completes.repeated lease).mp repeats
      unfold currentEpoch
      rw [state, if_pos rfl, found]
      simp only [Option.elim_some, ← repeats.epoch, newRepeats.epoch, le_refl]
    · obtain rfl : old = other := by rwa [found, Option.some.injEq] at otherFound
      rw [completes.wasActive] at completed
      cases completed
  · exact .of_same rfl (state.trans (if_neg same))

theorem LeaseStep.progress {world next : LeaseWorld} (step : LeaseStep world next)
    (admission : String) : LeaseProgress admission world.db next.db := by
  cases step with
  | kept reply silent => exact .refl _
  | granted reply silent db grant => exact grant.progress admission
  | completed reply lease old new time completes repeats reported =>
      exact completes.progress repeats admission

theorem LeaseWorldInvariant.progress (sha256 : String → String) {world : LeaseWorld}
    (invariant : LeaseWorldInvariant world) (calls : List LeaseCall) (admission : String) :
    LeaseProgress admission world.db
      (Transaction.run (LeaseWorld.step sha256) world calls).db :=
  Transaction.run_relation (fun before after => LeaseProgress admission before.db after.db)
    (fun _ call held => held.step (LeaseWorld.step_cases call held.tables.stateKeys))
    (fun world => .refl world.db) LeaseProgress.trans
    (fun _ call held => (LeaseWorld.step_cases call held.tables.stateKeys).progress admission)
    invariant calls

structure LeaseFinality (sha256 : String → String) (world later : LeaseWorld)
    (admission : String) : Prop where
  /-- A superseded lease never completes: each attempt raises and changes nothing. -/
  superseded : ∀ lease ∈ leasesOf world.db admission,
    lease.executionEpoch < currentEpoch world.db admission →
      lease.leaseId ∉ completionsOf later.replies admission ∧ ∀ service digest reading, ∃ error,
          Transaction.commit
            (DurableExecutionLeaseService.complete service sha256 lease.leaseId digest reading)
            later.db = (.error error, later.db)
  /-- After the completion neither the state nor the leases change. -/
  finished : ∀ state, stateOf world.db admission = some state → state.status = .completed →
    stateOf later.db admission = some state ∧
      leasesOf later.db admission = leasesOf world.db admission

theorem LeaseWorldInvariant.not_current {world : LeaseWorld}
    (invariant : LeaseWorldInvariant world) {lease : ExecutionLeaseRow} {admission : String}
    (member : lease ∈ leasesOf world.db admission)
    (early : lease.executionEpoch < currentEpoch world.db admission)
    {other : ExecutionLeaseRow} (otherMember : other ∈ world.db.executionLeases)
    {state : ExecutionEpochStateRow} (found : stateOf world.db other.admissionId = some state)
    (repeats : state.Repeats other) : other.leaseId ≠ lease.leaseId := by
  intro same
  obtain ⟨stored, ofAdmission⟩ := List.mem_filter.mp member
  obtain rfl := invariant.tables.leaseKeys.unique otherMember stored same
  simp only [decide_eq_true_eq] at ofAdmission
  have current : currentEpoch world.db admission = state.currentEpoch := by
    unfold currentEpoch
    rw [← ofAdmission, found]
    rfl
  rw [current, repeats.epoch] at early
  exact lt_irrefl _ early

theorem LeaseWorldInvariant.finality (sha256 : String → String) {world later : LeaseWorld}
    (invariant : LeaseWorldInvariant later) {admission : String}
    (progress : LeaseProgress admission world.db later.db) :
    LeaseFinality sha256 world later admission := by
  refine ⟨fun lease member early => ?_, progress.finished⟩
  have kept := progress.kept lease member
  have stillEarly := early.trans_le progress.epoch
  constructor
  · rw [invariant.reported]
    unfold recordedCompletion
    split
    · next state found =>
      split
      · obtain ⟨chain, represents⟩ := invariant.tables.represented admission
        obtain ⟨current, currentMember, repeats⟩ := represents.repeated state found
        obtain ⟨stored, ofAdmission⟩ := List.mem_filter.mp currentMember
        simp only [decide_eq_true_eq] at ofAdmission
        have other := invariant.not_current kept stillEarly stored (ofAdmission ▸ found) repeats
        rw [List.mem_singleton, ← repeats.identity]
        exact fun same => other same.symm
      · simp
    · simp
  · intro service digest reading
    cases returned : service.complete sha256 lease.leaseId digest reading later.db with
    | error error => exact ⟨error, Transaction.commit_of_error returned⟩
    | ok outcome =>
        obtain ⟨current, stored, same, _, _, state, found, repeats, _⟩ :=
          complete_current invariant.tables.stateKeys returned
        exact absurd same (invariant.not_current kept stillEarly stored found repeats)

/-- Execution-lease safety over whole runs, for every admission. -/
theorem executionLeases_safe (sha256 : String → String) (store : Database)
    (calls : List LeaseCall) (admission : String) :
    let world := Transaction.run (LeaseWorld.step sha256) (LeaseWorld.start store) calls
    LeaseSafety world admission ∧ ∀ later,
      LeaseFinality sha256 world (Transaction.run (LeaseWorld.step sha256) world later)
        admission := by
  intro world
  have invariant : LeaseWorldInvariant world := (LeaseWorldInvariant.start store).run sha256 calls
  exact ⟨invariant.safety admission, fun later =>
    (invariant.run sha256 later).finality sha256 (invariant.progress sha256 later admission)⟩

end VoodooOne
