import VoodooOne.Evidence.Chain
import VoodooOne.Lease.Guards

/-!
# Repeated completions

A completion that was recorded stays recorded.  Completing the lease again with the same digest
reports a duplicate, with another digest a conflict, whatever the clock says.
-/

namespace VoodooOne

open Calendar DurableExecutionLeaseService

/-- A lease is completed: its admission and its epoch state are stored and agree with it. -/
structure RecordedCompletion (sha256 : String → String) (revision : String)
    (lease : ExecutionLease) (completion : String) (time : Instant) (db : Database) : Prop where
  leaseStored : ∃ row, Table.lookup (·.leaseId) db.executionLeases lease.leaseId = some row ∧
    decodeLease sha256 row = .ok lease
  /-- Its epoch state is completed, under an admission that is stored. -/
  completed : ∃ row admission state,
    Table.lookup (·.admissionId) db.dispatchInbox lease.admissionId = some row ∧
    DurableExecutionLeaseService.decodeAdmission sha256 row = .ok admission ∧
    lease.assertBoundTo admission = .ok () ∧
    stateOf db lease.admissionId = some state ∧
    (∀ service : DurableExecutionLeaseService, service.authorityRevision = revision →
      service.assertStateBound state admission = .ok ()) ∧
    assertStateMatchesLease state lease = .ok () ∧
    state.authorityRevision = revision ∧ state.status = .completed ∧
    state.completionDigest = some completion ∧ state.completedAt = some time.isoformat

/-- The exception of a completion with another digest. -/
def completionConflict : Raised := ⟨.durableCompletionConflict, "COMPLETION_DIGEST_CONFLICT"⟩

section RecordedCompletion

variable {sha256 : String → String} {revision completion : String} {lease : ExecutionLease}
  {time : Instant} {db : Database}

theorem RecordedCompletion.complete_eq
    (recorded : RecordedCompletion sha256 revision lease completion time db)
    (service : DurableExecutionLeaseService) (same : service.authorityRevision = revision)
    (leaseDigest : IsDigest lease.leaseId) {digest : String} (isDigest : IsDigest digest)
    (reading : ClockReading) :
    service.complete sha256 lease.leaseId digest reading db =
      if digest = completion then .ok (⟨.duplicateCompletion, lease, digest⟩, db)
      else .error completionConflict := by
  obtain ⟨leaseRow, foundLease, decoded⟩ := recorded.leaseStored
  obtain ⟨row, admission, state, foundRow, decodedAdmission, bound, current, stateBound,
    matchesLease, -, completed, isCompletion, -⟩ := recorded.completed
  have passes {text field : String} (digest : IsDigest text) :
      requireDigest (.str text) field = .ok text :=
    requireDigest_eq_ok.mpr ⟨rfl, validText_of_isDigest digest, digest⟩
  have currentLease := matchesLease
  rw [assertStateMatchesLease, raiseIf_eq_ok, not_not] at currentLease
  rw [complete, passes leaseDigest, ok_bind, passes isDigest, ok_bind, foundLease, orRaise, ok_bind,
    decoded, ok_bind, foundRow, orRaise, ok_bind, decodedAdmission, ok_bind, bound, ok_bind,
    show Table.lookup (·.admissionId) db.executionEpochState lease.admissionId = some state from
      current, orRaise, ok_bind, stateBound service same, ok_bind,
    if_neg (not_not.mpr currentLease.1), raiseIf_of_not (not_not.mpr currentLease.2.1), ok_bind,
    matchesLease, ok_bind, if_pos completed, isCompletion]
  by_cases sameDigest : digest = completion
  · subst sameDigest
    rw [if_pos rfl, raiseIf_of_not (not_not.mpr rfl)]
    rfl
  · rw [if_neg sameDigest, raiseIf, if_pos fun equal => sameDigest (Option.some.inj equal).symm]
    rfl

theorem RecordedCompletion.complete_other
    (recorded : RecordedCompletion sha256 revision lease completion time db)
    (service : DurableExecutionLeaseService) (other : service.authorityRevision ≠ revision)
    (leaseDigest : IsDigest lease.leaseId) {digest : String} (isDigest : IsDigest digest)
    (reading : ClockReading) :
    service.complete sha256 lease.leaseId digest reading db =
      .error (denied "EPOCH_STATE_BINDING_INVALID") := by
  obtain ⟨leaseRow, foundLease, decoded⟩ := recorded.leaseStored
  obtain ⟨row, admission, state, foundRow, decodedAdmission, bound, current, -, -, isRevision, -⟩ :=
    recorded.completed
  have passes {text field : String} (digest : IsDigest text) :
      requireDigest (.str text) field = .ok text :=
    requireDigest_eq_ok.mpr ⟨rfl, validText_of_isDigest digest, digest⟩
  have unbound : service.assertStateBound state admission =
      .error (denied "EPOCH_STATE_BINDING_INVALID") := by
    refine if_pos fun equal => other ?_
    simp only [List.cons.injEq] at equal
    exact equal.2.2.2.2.2.2.2.1.symm.trans isRevision
  rw [complete, passes leaseDigest, ok_bind, passes isDigest, ok_bind, foundLease, orRaise, ok_bind,
    decoded, ok_bind, foundRow, orRaise, ok_bind, decodedAdmission, ok_bind, bound, ok_bind,
    show Table.lookup (·.admissionId) db.executionEpochState lease.admissionId = some state from
      current, orRaise, ok_bind, unbound]
  rfl

theorem RecordedCompletion.later {next : Database}
    (recorded : RecordedCompletion sha256 revision lease completion time db)
    (progress : LeaseProgress lease.admissionId db next) (invariant : LeaseInvariant next)
    (inbox : next.dispatchInbox = db.dispatchInbox) :
    RecordedCompletion sha256 revision lease completion time next := by
  obtain ⟨leaseRow, foundLease, decoded⟩ := recorded.leaseStored
  obtain ⟨row, admission, state, foundRow, decodedAdmission, bound, current, stateBound,
    matchesLease, isRevision, completed, isCompletion, isTime⟩ := recorded.completed
  obtain ⟨stored, sameLease⟩ := Table.mem_of_lookup foundLease
  have ofAdmission : leaseRow.admissionId = lease.admissionId := by
    rw [decodeLease_eq_ok decoded]
    rfl
  have kept := progress.kept leaseRow
    (List.mem_filter.mpr ⟨stored, decide_eq_true ofAdmission⟩)
  have still := invariant.leaseKeys.lookup_of_mem (List.mem_filter.mp kept).1
  refine ⟨⟨leaseRow, sameLease ▸ still, decoded⟩, row, admission, state, inbox ▸ foundRow,
    decodedAdmission, bound, (progress.finished state current completed).1, stateBound,
    matchesLease, isRevision, completed, isCompletion, isTime⟩

end RecordedCompletion

theorem LeaseStep.dispatchInbox_eq {world next : LeaseWorld} (step : LeaseStep world next) :
    next.db.dispatchInbox = world.db.dispatchInbox := by
  cases step with
  | kept reply silent => rfl
  | granted reply silent db grant => cases grant <;> rfl
  | completed reply lease old new time completes repeats reported => rfl

theorem LeaseWorldInvariant.dispatchInbox_eq (sha256 : String → String) {world : LeaseWorld}
    (invariant : LeaseWorldInvariant world) (calls : List LeaseCall) :
    (Transaction.run (LeaseWorld.step sha256) world calls).db.dispatchInbox =
      world.db.dispatchInbox :=
  (Transaction.run_relation
    (fun before after : LeaseWorld => before.db.dispatchInbox = after.db.dispatchInbox)
    (fun _ call held => held.step (LeaseWorld.step_cases call held.tables.stateKeys))
    (fun _ => rfl) Eq.trans
    (fun _ call held => (LeaseWorld.step_cases call held.tables.stateKeys).dispatchInbox_eq.symm)
    invariant calls).symm

/-- A call that completes a lease, in a reachable database. -/
structure CompletedLease (sha256 : String → String) where
  store : Database
  calls : List LeaseCall
  service : DurableExecutionLeaseService
  (leaseId completionDigest : String)
  reading : ClockReading
  result : DurableExecutionCompletionResult
  next : Database
  completed : service.complete sha256 leaseId completionDigest reading
    (Transaction.run (LeaseWorld.step sha256) (LeaseWorld.start store) calls).db =
      .ok (result, next)

namespace CompletedLease

variable {sha256 : String → String}

def before (call : CompletedLease sha256) : LeaseWorld :=
  Transaction.run (LeaseWorld.step sha256) (LeaseWorld.start call.store) call.calls

def world (call : CompletedLease sha256) : LeaseWorld :=
  call.before.step sha256
    (.complete call.service call.leaseId call.completionDigest call.reading)

theorem world_db (call : CompletedLease sha256) : call.world.db = call.next := by
  simp only [world, LeaseWorld.step, before, Transaction.commit_of_ok call.completed]

theorem recorded (call : CompletedLease sha256) :
    IsDigest call.leaseId ∧ IsDigest call.completionDigest ∧
      call.result.lease.leaseId = call.leaseId ∧ ∃ time : Instant,
        RecordedCompletion sha256 call.service.authorityRevision call.result.lease
          call.completionDigest time call.world.db := by
  have invariant : LeaseWorldInvariant call.before :=
    (LeaseWorldInvariant.start call.store).run sha256 call.calls
  have returned : call.service.complete sha256 call.leaseId call.completionDigest call.reading
      call.before.db = .ok (call.result, call.next) := call.completed
  rw [world_db]
  simp only [complete, bind_eq_ok, orRaise_eq_ok, requireDigest_eq_ok, Json.str.injEq] at returned
  obtain ⟨_, ⟨rfl, -, leaseDigest⟩, _, ⟨rfl, -, isDigest⟩, leaseRow, foundLease, lease, decoded,
    admissionRow, foundRow, admission, decodedAdmission, _, bound, state, current, _, stateBound,
    rest⟩ := returned
  have identity : lease.leaseId = call.leaseId := by
    rw [← (Table.mem_of_lookup foundLease).2, decodeLease_eq_ok decoded]
    rfl
  have isRevision : state.authorityRevision = call.service.authorityRevision := by
    rw [assertStateBound, raiseIf_eq_ok, not_not] at stateBound
    simp only [List.cons.injEq] at stateBound
    exact stateBound.2.2.2.2.2.2.2.1
  have boundAgain (service : DurableExecutionLeaseService)
      (same : service.authorityRevision = call.service.authorityRevision) :
      service.assertStateBound state admission = .ok () := by
    rw [assertStateBound, same]
    exact stateBound
  refine ⟨leaseDigest, isDigest, ?_⟩
  split at rest
  · simp only [bind_eq_ok, reduceCtorEq, and_false, exists_false] at rest
  · simp only [bind_eq_ok] at rest
    obtain ⟨_, -, _, matchesLease, rest⟩ := rest
    split at rest
    · next completed =>
      simp only [bind_eq_ok, raiseIf_eq_ok, not_not, pure_eq_ok, Prod.mk.injEq] at rest
      obtain ⟨_, isCompletion, isResult, isNext⟩ := rest
      rw [← isResult, ← isNext]
      obtain ⟨chain, represents⟩ := invariant.tables.represented lease.admissionId
      obtain ⟨time, -, isTime⟩ := represents.completed state current completed
      exact ⟨identity, time, ⟨leaseRow, identity ▸ foundLease, decoded⟩, admissionRow, admission,
        state, foundRow, decodedAdmission, bound, current, boundAgain, matchesLease, isRevision,
        completed, isCompletion, isTime⟩
    · simp only [bind_eq_ok, orRaise_eq_ok, pure_eq_ok, Prod.mk.injEq] at rest
      obtain ⟨clockWitness, -, _, fence, ⟨updated, last⟩, update, new, rfl, isResult, rfl⟩ := rest
      rw [← isResult]
      obtain ⟨old, oldMember, condition, rfl, guard, isNext⟩ :=
        Database.updateEpochState_eq_ok update
      simp only [activeUnder, decide_eq_true_eq] at condition
      obtain ⟨stateMember, stateSame⟩ := Table.mem_of_lookup current
      obtain rfl : old = state := invariant.tables.stateKeys.unique oldMember stateMember
        (condition.1.trans stateSame.symm)
      obtain ⟨-, -, -, observed, -, -, isTime, -, -⟩ := assertCompletionFence_eq_ok fence
      have found : stateOf call.next lease.admissionId =
          some (completedState call.completionDigest clockWitness old) := by
        rw [show call.next = withEpochState call.before.db
          (completedState call.completionDigest clockWitness old) from isNext]
        have stored : stateOf call.before.db
            (completedState call.completionDigest clockWitness old).admissionId = some old :=
          stateSame.symm ▸ current
        exact (stateOf_withEpochState stored lease.admissionId).trans (if_pos stateSame.symm)
      refine ⟨identity, observed, ⟨leaseRow, ?_, decoded⟩, admissionRow, admission, _, ?_,
        decodedAdmission, bound, found, boundAgain, matchesLease, isRevision, rfl, rfl,
        congrArg some isTime⟩
      · rw [isNext, identity]
        exact foundLease
      · rw [isNext]
        exact foundRow

theorem recorded_later (call : CompletedLease sha256) : ∃ time : Instant,
    ∀ later : List LeaseCall,
      RecordedCompletion sha256 call.service.authorityRevision call.result.lease
        call.completionDigest time (Transaction.run (LeaseWorld.step sha256) call.world
          later).db := by
  obtain ⟨-, -, -, time, recorded⟩ := call.recorded
  have invariant : LeaseWorldInvariant call.world :=
    ((LeaseWorldInvariant.start call.store).run sha256 call.calls).run sha256
      [.complete call.service call.leaseId call.completionDigest call.reading]
  exact ⟨time, fun later => recorded.later
    (invariant.progress sha256 later call.result.lease.admissionId)
    (invariant.run sha256 later).tables (invariant.dispatchInbox_eq sha256 later)⟩

end CompletedLease

/-- The answers of a database in which a lease is completed, to every later completion of it. -/
structure AnswersAgain (sha256 : String → String) (call : CompletedLease sha256) (db : Database) :
    Prop where
  /-- The same digest: a duplicate. -/
  duplicate : ∀ (service : DurableExecutionLeaseService) reading,
    service.authorityRevision = call.service.authorityRevision →
    Transaction.commit
      (service.complete sha256 call.leaseId call.completionDigest reading) db =
        (.ok ⟨.duplicateCompletion, call.result.lease, call.completionDigest⟩, db)
  /-- Another digest: a conflict. -/
  conflict : ∀ (service : DurableExecutionLeaseService) reading digest,
    service.authorityRevision = call.service.authorityRevision → IsDigest digest →
    digest ≠ call.completionDigest →
    Transaction.commit (service.complete sha256 call.leaseId digest reading) db =
      (.error completionConflict, db)
  /-- A service of another revision is denied. -/
  denied : ∀ (service : DurableExecutionLeaseService) reading digest,
    service.authorityRevision ≠ call.service.authorityRevision → IsDigest digest →
    Transaction.commit (service.complete sha256 call.leaseId digest reading) db =
      (.error (DurableExecutionLeaseService.denied "EPOCH_STATE_BINDING_INVALID"), db)

/-- A completion is settled: the time that was recorded stays, every later completion is answered
from the record, and a call that is denied changes nothing. -/
theorem completion_settled {sha256 : String → String} (call : CompletedLease sha256) :
    (∃ time : Instant, ∀ later : List LeaseCall,
      let db := (Transaction.run (LeaseWorld.step sha256) call.world later).db
      (∃ state, stateOf db call.result.lease.admissionId = some state ∧
        state.status = .completed ∧ state.completionDigest = some call.completionDigest ∧
        state.completedAt = some time.isoformat) ∧ AnswersAgain sha256 call db) ∧
    ∀ (service : DurableExecutionLeaseService) (db : Database) (key digest : String)
      (reading : ClockReading) (error : Raised),
      ((Transaction.commit (service.acquire sha256 key reading) db).1 = .error error →
        (Transaction.commit (service.acquire sha256 key reading) db).2 = db) ∧
      ((Transaction.commit (service.complete sha256 key digest reading) db).1 = .error error →
        (Transaction.commit (service.complete sha256 key digest reading) db).2 = db) := by
  obtain ⟨leaseDigest, isDigest, identity, -⟩ := call.recorded
  obtain ⟨time, recorded⟩ := call.recorded_later
  refine ⟨⟨time, fun later => ⟨?_, ?_⟩⟩, fun service db key digest reading error =>
    ⟨Transaction.commit_rollback, Transaction.commit_rollback⟩⟩
  · obtain ⟨_, _, state, -, -, -, found, -, -, -, completed, isCompletion, isTime⟩ :=
      (recorded later).completed
    exact ⟨state, found, completed, isCompletion, isTime⟩
  · have ofLease : IsDigest call.result.lease.leaseId := identity.symm ▸ leaseDigest
    refine ⟨fun service reading same => ?_, fun service reading digest same valid other => ?_,
      fun service reading digest other valid => ?_⟩
    · refine Transaction.commit_of_ok ?_
      rw [← identity, (recorded later).complete_eq service same ofLease isDigest, if_pos rfl]
    · refine Transaction.commit_of_error ?_
      rw [← identity, (recorded later).complete_eq service same ofLease valid, if_neg other]
    · refine Transaction.commit_of_error ?_
      rw [← identity, (recorded later).complete_other service other ofLease valid]

namespace RetriedCompletion

variable (sha256 : Sha256)

def service : DurableExecutionLeaseService where
  trustedClock := ⟨"clock", "r1", ["staging"]⟩
  leaseSeconds := 120
  leaseRevision := "r1"
  authorityRevision := "r1"
  bounded := by decide
  revisions := by decide

def admissionDraft : DispatchInboxAdmission where
  admissionId := admissionId sha256.hexdigest (repeatedDigit '0') (repeatedDigit '0')
    (repeatedDigit '0')
  dispatchId := repeatedDigit '0'
  envelopeDigest := repeatedDigit '0'
  outboxId := "out_1"
  outboxEntryDigest := repeatedDigit '0'
  executionId := "exec_1"
  workspaceId := "ws_1"
  environment := "staging"
  executionCapsuleDigest := repeatedDigit '0'
  runnerClass := "isolated-write"
  admissionRevision := "r1"
  admissionDigest := ""

def admission : DispatchInboxAdmission :=
  sha256.finish DispatchInboxAdmission.contract (admissionDraft sha256)

theorem zeros : ValidText (repeatedDigit '0') ∧ IsDigest (repeatedDigit '0') :=
  have digest : IsDigest (repeatedDigit '0') := isDigest_repeatedDigit (by decide)
  ⟨validText_of_isDigest digest, digest⟩

theorem admission_created : DispatchInboxAdmission.contract.create sha256.hexdigest
    (admissionDraft sha256) = .ok (admission sha256) := by
  refine Contract.create_of_holds DispatchInboxAdmission.lawful _ (admission sha256).admissionDigest
    rfl (fun self reads => ?_) (raiseIf_of_not (not_not.mpr rfl))
  simp only [DispatchInboxAdmission.contract, Contract.fieldsWith, Contract.claimFields,
    DispatchInboxAdmission.claims, admissionDraft, List.cons_append, List.nil_append,
    List.forall_mem_cons] at reads
  simp only [DispatchInboxAdmission.contract, requireTexts, requireDigests, List.map_cons,
    List.map_nil, List.cons_append, List.nil_append, List.forall_mem_cons, AttributeCheck.Holds,
    Attributes.text, Json.text?, reads, Option.getD_some, true_and]
  exact ⟨by decide, by decide, by decide, by decide, by decide, by decide, sha256.passes _, zeros,
    zeros, zeros, zeros, sha256.passes _, List.forall_mem_nil _⟩

def store : Database :=
  (Database.empty.setWorkspaces [⟨"ws_1", "main", "staging",
    sampleTime.isoformat⟩]).setDispatchInbox [(admission sha256).row]

def clockWitness (moment : Instant) : ClockWitness :=
  let draft : ClockWitness := ⟨"clock", "r1", "staging", moment.isoformat, ""⟩
  { draft with witnessDigest := digestOf sha256.hexdigest draft.claimsWithoutDigest }

theorem clock_witnessed (moment : Instant) :
    service.trustedClock.witness sha256.hexdigest "staging" (.aware moment) =
      .ok (clockWitness sha256 moment) := by
  simp only [TrustedClockAuthority.witness, ClockWitness.create, ClockWitness.postInit, service,
    bind_eq_ok, raiseIf_eq_ok, requireText_eq_ok, orRaise_eq_ok, not_not, pure_eq_ok]
  exact ⟨(), by decide, (), by decide, (), ⟨"clock", ⟨rfl, by decide⟩, "r1", ⟨rfl, by decide⟩, (),
    by decide, moment, Instant.ofIsoformat?_eq_some.mpr rfl, (),
    raiseIf_of_not (not_not.mpr (sha256.isDigest _)), raiseIf_of_not (not_not.mpr rfl)⟩, rfl⟩

def leaseDraft : ExecutionLease where
  leaseId := leaseId sha256.hexdigest (admission sha256).admissionId 1
  dispatchId := (admission sha256).dispatchId
  admissionId := (admission sha256).admissionId
  admissionDigest := (admission sha256).admissionDigest
  executionId := "exec_1"
  workspaceId := "ws_1"
  environment := "staging"
  executionCapsuleDigest := repeatedDigit '0'
  runnerClass := "isolated-write"
  executionEpoch := 1
  acquiredAt := sampleTime.isoformat
  expiresAt := twoMinutesLater.isoformat
  clockWitnessDigest := (clockWitness sha256 sampleTime).witnessDigest
  leaseRevision := "r1"
  leaseDigest := ""

def lease : ExecutionLease := sha256.finish ExecutionLease.contract (leaseDraft sha256)

theorem lease_built : ExecutionLease.contract.create sha256.hexdigest (leaseDraft sha256) =
    .ok (lease sha256) := by
  refine Contract.create_of_holds ExecutionLease.lawful _ (lease sha256).leaseDigest rfl
    (fun self reads => ?_) ?_
  · simp only [ExecutionLease.contract, Contract.fieldsWith, Contract.claimFields,
      ExecutionLease.claims, leaseDraft, List.cons_append, List.nil_append,
      List.forall_mem_cons] at reads
    simp only [ExecutionLease.contract, requireTexts, requireDigests, requireEpochOf, List.map_cons,
      List.map_nil, List.cons_append, List.nil_append, List.forall_mem_cons, AttributeCheck.Holds,
      Attributes.text, Attributes.int, Json.text?, reads, Option.getD_some, true_and]
    exact ⟨by decide, by decide, by decide, by decide, by decide, sha256.passes _, zeros,
      sha256.passes _, sha256.passes _, zeros, sha256.passes _, sha256.passes _, le_rfl,
      validText_sampleTime, validText_twoMinutesLater, List.forall_mem_nil _⟩
  · simp only [ExecutionLease.contract, bind_eq_ok, raiseIf_eq_ok, not_not]
    exact ⟨sampleTime, requireTimestamp_eq_ok.mpr ⟨rfl, validText_sampleTime⟩, twoMinutesLater,
      requireTimestamp_eq_ok.mpr ⟨rfl, validText_twoMinutesLater⟩, (), by decide, (), by decide,
      rfl⟩

theorem lease_created : ExecutionLease.createCandidate sha256.hexdigest (admission sha256) 1
    (clockWitness sha256 sampleTime) 120 "r1" = .ok (lease sha256) := by
  simp only [ExecutionLease.createCandidate, bind_eq_ok, requireEpoch_eq_ok, requireText_eq_ok,
    requireTimestamp_eq_ok, orRaise_eq_ok, Instant.later_eq_some]
  exact ⟨1, ⟨rfl, le_rfl⟩, (), raiseIf_of_not (by decide), "r1", ⟨rfl, by decide⟩, (),
    raiseIf_of_not (not_not.mpr rfl), sampleTime, ⟨rfl, validText_sampleTime⟩, twoMinutesLater, rfl,
    lease_built sha256⟩

def plan : AcquirePlan :=
  ⟨admission sha256, clockWitness sha256 sampleTime, none, lease sha256⟩

theorem found_admission : Table.lookup (·.admissionId) (store sha256).dispatchInbox
    (admission sha256).admissionId = some (admission sha256).row :=
  List.find?_cons_of_pos (decide_eq_true rfl)

theorem admission_decoded : DurableExecutionLeaseService.decodeAdmission sha256.hexdigest
    (admission sha256).row = .ok (admission sha256) := by
  simp only [DurableExecutionLeaseService.decodeAdmission, bind_eq_ok, catching_eq_ok, pure_eq_ok]
  exact ⟨_, Contract.fromDict_of_create DispatchInboxAdmission.lawful (admission_created sha256),
    (), raiseIf_of_not (not_not.mpr rfl), rfl⟩

theorem planned : service.planAcquire sha256.hexdigest (admission sha256).admissionId
    (.aware sampleTime) (store sha256) = .ok (plan sha256) := by
  have unleased : Table.lookup (·.admissionId) (store sha256).executionEpochState
      (admission sha256).admissionId = none := rfl
  simp only [planAcquire, bind_eq_ok, requireDigest_eq_ok, orRaise_eq_ok, unleased, pure_eq_ok]
  exact ⟨_, ⟨rfl, sha256.passes _⟩, _, found_admission sha256, _, admission_decoded sha256, _,
    clock_witnessed sha256 sampleTime, (), assertNextExecutionEpoch_none.mpr rfl, _,
    lease_created sha256, rfl⟩

def state : ExecutionEpochStateRow :=
  service.initialState (admission sha256) (lease sha256) (clockWitness sha256 sampleTime)

def leased : Database :=
  ((store sha256).setExecutionLeases [(plan sha256).leaseRow]).setExecutionEpochState [state sha256]

theorem start_eq : LeaseWorld.start (store sha256) = ⟨store sha256, []⟩ := rfl

theorem tables : EpochTables (store sha256) := EpochTables.start (store sha256)

theorem acquired : service.acquire sha256.hexdigest (admission sha256).admissionId
    (.aware sampleTime) (store sha256) = .ok (⟨.leaseAcquired, lease sha256⟩, leased sha256) := by
  have passed := planAcquire_passed (planned sha256)
  have fresh : (plan sha256).leaseRow.Fresh (store sha256) := List.forall_mem_nil _
  have workspace : (store sha256).HasWorkspace (plan sha256).leaseRow.workspaceId :=
    ⟨_, List.mem_singleton_self _, rfl⟩
  have inserted : (store sha256).insertLease (plan sha256).leaseRow =
      .ok ((store sha256).setExecutionLeases
        ((store sha256).executionLeases ++ [(plan sha256).leaseRow])) := by
    simp only [Database.insertLease, bind_eq_ok, pure_eq_ok]
    exact ⟨(), raiseIf_of_not (not_not.mpr passed.leaseRow_checks), (),
      raiseIf_of_not (not_not.mpr fresh), (), raiseIf_of_not (not_not.mpr passed.leaseRow_bound),
      (), raiseIf_of_not (not_not.mpr workspace), trivial⟩
  obtain ⟨next, begun⟩ := passed.insertEpochState_ok (tables sha256) service rfl fresh workspace
  obtain rfl := (Database.insertEpochState_eq_ok begun).1
  rw [acquire_eq, planned, ok_bind, AcquirePlan.write, inserted]
  change (catching _ _ (Database.insertEpochState _ _) >>= _) = _
  rw [begun]
  rfl

theorem leased_tables : EpochTables (leased sha256) := by
  let world : LeaseWorld := ⟨store sha256, []⟩
  have called : EpochTables (world.step sha256.hexdigest
      (.acquire service (admission sha256).admissionId (.aware sampleTime))).db :=
    EpochTables.call (tables sha256) _
  simpa only [world, LeaseWorld.step, Transaction.commit_of_ok (acquired sha256)] using called

theorem lease_decoded : decodeLease sha256.hexdigest (plan sha256).leaseRow =
    .ok (lease sha256) := by
  have distinct (witness : ClockWitness) : ((witness.claimFields ++
      [("witness_digest", Json.str witness.witnessDigest)]).map Prod.fst).Nodup := by
    simp [ClockWitness.claimFields]
  have witnessed : Json.get? "witness_digest" (plan sha256).leaseRow.clockWitness =
      some (.str (lease sha256).clockWitnessDigest) :=
    Json.get?_object _ _ (distinct (clockWitness sha256 sampleTime))
  simp only [decodeLease, bind_eq_ok, catching_eq_ok, pure_eq_ok]
  exact ⟨_, Contract.fromDict_of_create ExecutionLease.lawful (lease_built sha256), (),
    raiseIf_of_not (not_not.mpr witnessed), (), raiseIf_of_not (not_not.mpr rfl), rfl⟩

theorem found_state : Table.lookup (·.admissionId) (leased sha256).executionEpochState
    (lease sha256).admissionId = some (state sha256) :=
  List.find?_cons_of_pos (decide_eq_true rfl)

def completion (moment : Instant) : CompletePlan :=
  .record (lease sha256) (repeatedDigit '0') (clockWitness sha256 moment)

theorem completion_planned {moment : Instant} (valid : ValidText moment.isoformat)
    (started : sampleTime ≤ moment) (running : moment < twoMinutesLater) :
    service.planComplete sha256.hexdigest (lease sha256).leaseId (repeatedDigit '0')
      (.aware moment) (leased sha256) = .ok (completion sha256 moment) := by
  have foundLease : Table.lookup (·.leaseId) (leased sha256).executionLeases
      (lease sha256).leaseId = some (plan sha256).leaseRow :=
    List.find?_cons_of_pos (decide_eq_true rfl)
  have fence : (lease sha256).assertCompletionFence 1 (clockWitness sha256 moment) = .ok () := by
    simp only [ExecutionLease.assertCompletionFence, bind_eq_ok, requireEpoch_eq_ok,
      requireTimestamp_eq_ok]
    exact ⟨1, ⟨rfl, le_rfl⟩, (), raiseIf_of_not (not_not.mpr rfl), (), raiseIf_of_not (lt_irrefl _),
      (), raiseIf_of_not (lt_irrefl _), sampleTime, ⟨rfl, validText_sampleTime⟩, twoMinutesLater,
      ⟨rfl, validText_twoMinutesLater⟩, moment, ⟨rfl, valid⟩, (),
      raiseIf_of_not (not_lt.mpr started), raiseIf_of_not (not_le.mpr running)⟩
  simp only [planComplete, bind_eq_ok, requireDigest_eq_ok, orRaise_eq_ok]
  refine ⟨_, ⟨rfl, sha256.passes _⟩, _, ⟨rfl, zeros⟩, _, foundLease, _, lease_decoded sha256, _,
    found_admission sha256, _, admission_decoded sha256, (), raiseIf_of_not (not_not.mpr rfl), _,
    found_state sha256, (), raiseIf_of_not (not_not.mpr rfl), ?_⟩
  have sameEpoch : (state sha256).currentEpoch = (lease sha256).executionEpoch := rfl
  have active : ¬(state sha256).status = .completed := fun same => EpochStatus.noConfusion same
  rw [if_neg (not_not.mpr sameEpoch)]
  simp only [bind_eq_ok]
  refine ⟨(), raiseIf_of_not (not_not.mpr rfl), (),
    raiseIf_of_not (not_not.mpr ⟨rfl, rfl, rfl, rfl, rfl⟩), ?_⟩
  rw [if_neg active]
  simp only [bind_eq_ok]
  exact ⟨_, clock_witnessed sha256 moment, (), fence, rfl⟩

def call {moment : Instant} (valid : ValidText moment.isoformat) (started : sampleTime ≤ moment)
    (running : moment < twoMinutesLater) : CompletedLease sha256.hexdigest where
  store := store sha256
  calls := [.acquire service (admission sha256).admissionId (.aware sampleTime)]
  service
  leaseId := (lease sha256).leaseId
  completionDigest := repeatedDigit '0'
  reading := .aware moment
  result := ⟨.completed, lease sha256, repeatedDigit '0'⟩
  next := withEpochState (leased sha256)
    (completedState (repeatedDigit '0') (clockWitness sha256 moment) (state sha256))
  completed := by
    have planned := completion_planned sha256 valid started running
    obtain ⟨updated, next, moved⟩ :=
      CompletePlan.Passed.updateEpochState_ok (planComplete_passed planned) (leased_tables sha256)
    obtain ⟨old, member, -, rfl, -, rfl⟩ := Database.updateEpochState_eq_ok moved
    obtain rfl := List.mem_singleton.mp member
    rw [Transaction.run_cons, Transaction.run_nil, LeaseWorld.step, start_eq]
    simp only [Transaction.commit_of_ok (acquired sha256)]
    rw [complete_eq, planned, ok_bind, completion, CompletePlan.write, moved]
    rfl

/-- Completing the lease again returns the same, and the state keeps the moment of the first time.
-/
theorem completed_again {moment : Instant} (valid : ValidText moment.isoformat)
    (started : sampleTime ≤ moment) (running : moment < twoMinutesLater) :
    let first := call sha256 valid started running
    service.complete sha256.hexdigest first.leaseId first.completionDigest (.aware moment)
      first.world.db = .ok (⟨.duplicateCompletion, lease sha256, repeatedDigit '0'⟩,
        first.world.db) ∧
    ∀ state, stateOf first.world.db (lease sha256).admissionId = some state →
      state.completedAt = some moment.isoformat := by
  intro first
  obtain ⟨leaseDigest, isDigest, -, _, recorded⟩ := first.recorded
  refine ⟨?_, fun found stored => ?_⟩
  · exact (recorded.complete_eq service rfl leaseDigest isDigest _).trans (if_pos rfl)
  · let done := completedState (repeatedDigit '0') (clockWitness sha256 moment) (state sha256)
    have before : stateOf (leased sha256) done.admissionId = some (state sha256) :=
      found_state sha256
    have next : stateOf (withEpochState (leased sha256) done) (lease sha256).admissionId =
        some done :=
      (stateOf_withEpochState before (lease sha256).admissionId).trans (if_pos rfl)
    rw [first.world_db] at stored
    exact congrArg ExecutionEpochStateRow.completedAt (Option.some.inj (stored.symm.trans next))

end RetriedCompletion

/-- What a repeated completion returns does not show when the completion was recorded. -/
theorem completion_time_unreported : ¬∃ (sha256 : Sha256)
    (recordedAt : DurableExecutionCompletionResult → Option String),
      ∀ (call : CompletedLease sha256.hexdigest) (reading : ClockReading)
        (result : DurableExecutionCompletionResult) (next : Database),
        call.service.complete sha256.hexdigest call.leaseId call.completionDigest reading
          call.world.db = .ok (result, next) →
        ∀ state, stateOf next result.lease.admissionId = some state →
          recordedAt result = state.completedAt := by
  rintro ⟨sha256, recordedAt, reported⟩
  have shown {moment : Instant} (valid : ValidText moment.isoformat) (started : sampleTime ≤ moment)
      (running : moment < twoMinutesLater) :
      recordedAt ⟨.duplicateCompletion, RetriedCompletion.lease sha256, repeatedDigit '0'⟩ =
        some moment.isoformat := by
    obtain ⟨again, time⟩ := RetriedCompletion.completed_again sha256 valid started running
    obtain ⟨-, -, -, _, recorded⟩ := (RetriedCompletion.call sha256 valid started running).recorded
    obtain ⟨_, _, state, -, -, -, found, -⟩ := recorded.completed
    exact (reported _ _ _ _ again state found).trans (time state found)
  have atOnce := shown validText_sampleTime (by decide) (by decide)
  have later := shown validText_minuteLater (by decide) (by decide)
  have same := Instant.isoformat_injective (Option.some.inj (atOnce.symm.trans later))
  exact absurd same (by decide)

end VoodooOne
