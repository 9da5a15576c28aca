import VoodooOne.Dispatch.Services

/-!
# Admissions over runs

Over every run of deliveries, redeliveries and new outbox rows, the inbox holds exactly the
admissions
that deliveries returned, one for each entry, and each entry's envelopes keep their answers.
-/

namespace VoodooOne

namespace DispatchEnvelope

def BoundTo (sha256 : String → String) (envelope : DispatchEnvelope)
    (entry : DispatchOutboxEntry) : Prop :=
  envelope.projected = projection sha256 entry

variable {sha256 : String → String} {envelope other : DispatchEnvelope}
  {entry : DispatchOutboxEntry}

theorem assertBoundTo_eq_ok {result : Unit} :
    envelope.assertBoundTo sha256 entry = .ok result ↔ envelope.BoundTo sha256 entry := by
  rw [assertBoundTo, raiseIf_eq_ok, not_not, BoundTo]

theorem BoundTo.outboxId (bound : envelope.BoundTo sha256 entry) :
    envelope.outboxId = entry.outboxId := by
  simp only [BoundTo, projected, projection, List.cons.injEq] at bound
  exact bound.2.1

theorem BoundTo.dispatchId (bound : envelope.BoundTo sha256 entry) :
    envelope.dispatchId = VoodooOne.dispatchId sha256 entry.outboxId entry.entryDigest := by
  simp only [BoundTo, projected, projection, List.cons.injEq] at bound
  exact bound.1

theorem claims_alike : List.Forall₂ AlikeField (contract.claims envelope)
    (contract.claims other) := by
  simp only [contract, claims]
  repeat' first
    | exact List.Forall₂.nil
    | apply List.Forall₂.cons ⟨rfl, .inr ⟨_, _, rfl, rfl⟩⟩

end DispatchEnvelope

namespace DispatchInboxAdmission

variable {sha256 : String → String} {envelope : DispatchEnvelope} {entry : DispatchOutboxEntry}
  {admission : DispatchInboxAdmission} {revision : String}

/-- The admission is the one of this envelope and entry, up to its revision and digest. -/
def Binds (sha256 : String → String) (admission : DispatchInboxAdmission)
    (envelope : DispatchEnvelope) (entry : DispatchOutboxEntry) : Prop :=
  ∃ revision digest, admission = { draft sha256 envelope entry revision with
    admissionDigest := digest }

theorem create_eq_ok (created : create sha256 envelope entry revision = .ok admission) :
    envelope.BoundTo sha256 entry ∧ admission.Binds sha256 envelope entry ∧
      fromDict sha256 admission.toDict = .ok admission := by
  simp only [create, bind_eq_ok, DispatchEnvelope.assertBoundTo_eq_ok] at created
  obtain ⟨_, _, _, bound, made⟩ := created
  exact ⟨bound, ⟨revision, _, Contract.eq_of_create lawful made⟩,
    Contract.fromDict_of_create lawful made⟩

theorem Binds.bound (binds : admission.Binds sha256 envelope entry) :
    admission.bound = [envelope.dispatchId, envelope.envelopeDigest, entry.outboxId,
      entry.entryDigest, entry.executionId, entry.workspaceId, entry.environment,
      entry.executionCapsuleDigest, entry.runnerClass] := by
  obtain ⟨_, _, rfl⟩ := binds
  rfl

theorem Binds.classifyRedelivery (binds : admission.Binds sha256 envelope entry)
    (bound : envelope.BoundTo sha256 entry) :
    admission.classifyRedelivery sha256 envelope entry = .ok () := by
  have same : envelope.dispatchId = admission.dispatchId := by
    obtain ⟨_, _, rfl⟩ := binds
    rfl
  simp only [DispatchInboxAdmission.classifyRedelivery, assertBoundTo, bind_eq_ok, catching_eq_ok,
    raiseIf_eq_ok, not_not, DispatchEnvelope.assertBoundTo_eq_ok]
  exact ⟨(), bound, (), same, (), bound, binds.bound⟩

theorem Binds.classifyRedelivery_of_ne {other : DispatchEnvelope}
    (binds : admission.Binds sha256 envelope entry) (bound : envelope.BoundTo sha256 entry)
    (otherBound : other.BoundTo sha256 entry)
    (different : other.envelopeDigest ≠ envelope.envelopeDigest) :
    admission.classifyRedelivery sha256 other entry =
      .error DurableDispatchInboxService.contentConflict := by
  have identities : other.dispatchId = admission.dispatchId := by
    rw [otherBound.dispatchId, ← bound.dispatchId]
    obtain ⟨_, _, rfl⟩ := binds
    rfl
  have unbound : admission.bound ≠ [other.dispatchId, other.envelopeDigest, entry.outboxId,
      entry.entryDigest, entry.executionId, entry.workspaceId, entry.environment,
      entry.executionCapsuleDigest, entry.runnerClass] := by
    rw [binds.bound]
    intro same
    simp only [List.cons.injEq] at same
    exact different same.2.1.symm
  have asserted : other.assertBoundTo sha256 entry = .ok () :=
    DispatchEnvelope.assertBoundTo_eq_ok.mpr otherBound
  rw [DispatchInboxAdmission.classifyRedelivery, assertBoundTo, asserted, ok_bind, ok_bind,
    raiseIf, if_neg (not_not.mpr identities), ok_bind, raiseIf, if_pos unbound]
  rfl

end DispatchInboxAdmission

namespace DurableDispatchInboxService

variable {sha256 : String → String} {db next : Database} {envelope : DispatchEnvelope}
  {admission : DispatchInboxAdmission} {entry : DispatchOutboxEntry}
  {service : DurableDispatchInboxService}

/-- The outbox holds this entry under its identifier. -/
def Offers (sha256 : String → String) (db : Database) (entry : DispatchOutboxEntry) : Prop :=
  ∃ row, Table.lookup (·.outboxId) db.dispatchOutbox entry.outboxId = some row ∧
    decodeOutbox sha256 row = .ok entry

structure Accepts (sha256 : String → String) (db : Database) (envelope : DispatchEnvelope)
    (entry : DispatchOutboxEntry) (admission : DispatchInboxAdmission) : Prop where
  offered : Offers sha256 db entry
  bound : envelope.BoundTo sha256 entry
  binds : admission.Binds sha256 envelope entry
  readBack : DispatchInboxAdmission.fromDict sha256 admission.toDict = .ok admission

/-- What a delivery that returns has done. -/
inductive Delivered (sha256 : String → String) (db : Database) (envelope : DispatchEnvelope) :
    DispatchInboxPersistenceResult → Database → Prop where
  | duplicate (admission : DispatchInboxAdmission) :
      Delivered sha256 db envelope ⟨.duplicateRedelivery, admission⟩ db
  | admitted (entry : DispatchOutboxEntry) (admission : DispatchInboxAdmission)
      (accepts : Accepts sha256 db envelope entry admission) (fresh : admission.row.Fresh db)
      (bound : admission.row.Bound db) :
      Delivered sha256 db envelope ⟨.admitted, admission⟩
        (db.setDispatchInbox (db.dispatchInbox ++ [admission.row]))

theorem decodeOutbox_eq_ok {row : DispatchOutboxRow}
    (decoded : decodeOutbox sha256 row = .ok entry) : row = entry.row := by
  simp only [decodeOutbox, bind_eq_ok, raiseIf_eq_ok, not_not, pure_eq_ok] at decoded
  obtain ⟨_, _, _, same, rfl⟩ := decoded
  exact same

theorem admit_eq_ok {result : DispatchInboxPersistenceResult}
    (returned : service.admitEnvelope sha256 envelope db = .ok (result, next)) :
    Delivered sha256 db envelope result next := by
  simp only [admitEnvelope, bind_eq_ok, orRaise_eq_ok, catching_eq_ok] at returned
  obtain ⟨outboxRow, found, outbox, decoded, _, _, decided⟩ := returned
  have key := (Table.mem_of_lookup found).2
  have entryKey : outboxRow.outboxId = outbox.outboxId := by rw [decodeOutbox_eq_ok decoded]; rfl
  split at decided
  · simp only [bind_eq_ok, pure_eq_ok, Prod.mk.injEq] at decided
    obtain ⟨_, _, _, _, rfl, rfl⟩ := decided
    exact .duplicate _
  · simp only [bind_eq_ok, catching_eq_ok, pure_eq_ok, Prod.mk.injEq] at decided
    obtain ⟨admission, created, _, inserted, rfl, rfl⟩ := decided
    obtain ⟨bound, binds, readBack⟩ := DispatchInboxAdmission.create_eq_ok created
    obtain ⟨rfl, fresh, rowBound⟩ := Database.insertDispatchInbox_eq_ok inserted
    have offered : Offers sha256 db outbox := ⟨outboxRow, by rw [← entryKey, key, found], decoded⟩
    exact .admitted outbox admission ⟨offered, bound, binds, readBack⟩ fresh rowBound

namespace Accepts

variable {other : DispatchEnvelope}

theorem admit_of_unbound (accepts : Accepts sha256 db envelope entry admission)
    (named : other.outboxId = entry.outboxId) (unbound : ¬other.BoundTo sha256 entry) :
    service.admitEnvelope sha256 other db = .error (denied "OUTBOX_BINDING_MISMATCH") := by
  obtain ⟨row, found, decoded⟩ := accepts.offered
  have refused : other.projected ≠ DispatchEnvelope.projection sha256 entry := unbound
  rw [admitEnvelope, named, found, orRaise, ok_bind, decoded, ok_bind,
    DispatchEnvelope.assertBoundTo, raiseIf, if_pos refused]
  rfl

theorem admit_of_bound (accepts : Accepts sha256 db envelope entry admission)
    (keyed : Table.Keyed (·.dispatchId) db.dispatchInbox)
    (stored : admission.row ∈ db.dispatchInbox) (bound : other.BoundTo sha256 entry) :
    service.admitEnvelope sha256 other db = (do
      classified (admission.classifyRedelivery sha256 other entry)
      return (⟨.duplicateRedelivery, admission⟩, db)) := by
  obtain ⟨row, outboxFound, outboxDecoded⟩ := accepts.offered
  have identity : admission.row.dispatchId = other.dispatchId := by
    rw [bound.dispatchId, ← accepts.bound.dispatchId]
    obtain ⟨_, _, rfl⟩ := accepts.binds
    rfl
  have found : Table.lookup (·.dispatchId) db.dispatchInbox other.dispatchId =
      some admission.row := keyed.lookup_iff.mpr ⟨stored, identity⟩
  have decoded : decodeAdmission sha256 admission.row = .ok admission := by
    simp only [decodeAdmission, bind_eq_ok, catching_eq_ok, raiseIf_eq_ok, not_not, pure_eq_ok]
    exact ⟨admission, accepts.readBack, (), rfl, rfl⟩
  have asserted : other.assertBoundTo sha256 entry = .ok () :=
    DispatchEnvelope.assertBoundTo_eq_ok.mpr bound
  rw [admitEnvelope, bound.outboxId, outboxFound, orRaise, ok_bind, outboxDecoded, ok_bind,
    asserted, found, catching, ok_bind]
  simp only [decoded, ok_bind]

theorem admit_again (accepts : Accepts sha256 db envelope entry admission)
    (keyed : Table.Keyed (·.dispatchId) db.dispatchInbox)
    (stored : admission.row ∈ db.dispatchInbox) :
    service.admitEnvelope sha256 envelope db = .ok (⟨.duplicateRedelivery, admission⟩, db) := by
  rw [accepts.admit_of_bound keyed stored accepts.bound,
    accepts.binds.classifyRedelivery accepts.bound]
  rfl

theorem admit_other (accepts : Accepts sha256 db envelope entry admission)
    (keyed : Table.Keyed (·.dispatchId) db.dispatchInbox)
    (stored : admission.row ∈ db.dispatchInbox) (bound : other.BoundTo sha256 entry)
    (different : other.envelopeDigest ≠ envelope.envelopeDigest) :
    service.admitEnvelope sha256 other db = .error contentConflict := by
  rw [accepts.admit_of_bound keyed stored bound,
    accepts.binds.classifyRedelivery_of_ne accepts.bound bound different]
  rfl

theorem mono (accepts : Accepts sha256 db envelope entry admission)
    (more : ∃ rows, next.dispatchOutbox = db.dispatchOutbox ++ rows) :
    Accepts sha256 next envelope entry admission := by
  obtain ⟨rows, more⟩ := more
  obtain ⟨row, found, decoded⟩ := accepts.offered
  refine { accepts with offered := ⟨row, ?_, decoded⟩ }
  rw [Table.lookup] at found ⊢
  rw [more, List.find?_append, found, Option.some_or]

end Accepts

end DurableDispatchInboxService

/-- One call of a run.  `enqueue` inserts any row that the outbox accepts; `elsewhere` lets the
tables beside outbox and inbox change in any way. -/
inductive InboxCall (sha256 : String → String) where
  | deliver (service : DurableDispatchInboxService) (envelope : DispatchEnvelope)
      (built : DispatchEnvelope.contract.Built sha256 envelope)
  | enqueue (row : DispatchOutboxRow)
  | elsewhere (other : Database)

inductive InboxReply where
  | delivered (envelope : DispatchEnvelope) (result : DispatchInboxPersistenceResult)
  | changed

def InboxReply.admission? : InboxReply → Option (DispatchEnvelope × DispatchInboxAdmission)
  | .delivered envelope ⟨.admitted, admission⟩ => some (envelope, admission)
  | _ => none

/-- Envelopes that replies admit, with their admissions. -/
def admissionsOf (replies : List (Except Raised InboxReply)) :
    List (DispatchEnvelope × DispatchInboxAdmission) :=
  replies.filterMap fun reply => reply.toOption.bind InboxReply.admission?

/-- The tables of `other` with the outbox and inbox tables of the database. -/
def Database.withDispatchTables (db other : Database) : Database :=
  (other.setDispatchOutbox db.dispatchOutbox).setDispatchInbox db.dispatchInbox

def InboxCall.body {sha256 : String → String} :
    InboxCall sha256 → Database → Except Raised (InboxReply × Database)
  | .deliver service envelope _, db => do
      let (result, next) ← service.admitEnvelope sha256 envelope db
      return (.delivered envelope result, next)
  | .enqueue row, db => do
      let next ← db.insertDispatchOutbox row
      return (.changed, next)
  | .elsewhere other, db => .ok (.changed, db.withDispatchTables other)

/-- A database with the replies given so far. -/
structure InboxWorld where
  db : Database
  replies : List (Except Raised InboxReply)

namespace InboxWorld

/-- A database without outbox rows and admissions, before any call. -/
def start (store : Database) : InboxWorld where
  db := (store.setDispatchOutbox []).setDispatchInbox []
  replies := []

def step {sha256 : String → String} (world : InboxWorld) (call : InboxCall sha256) : InboxWorld :=
  let (reply, db) := Transaction.commit call.body world.db
  ⟨db, world.replies ++ [reply]⟩

end InboxWorld

open DurableDispatchInboxService

inductive InboxStep (sha256 : String → String) (world : InboxWorld) : InboxWorld → Prop where
  | kept (db : Database) (reply : Except Raised InboxReply)
      (silent : reply.toOption.bind InboxReply.admission? = none)
      (outbox : ∃ rows, db.dispatchOutbox = world.db.dispatchOutbox ++ rows)
      (inbox : db.dispatchInbox = world.db.dispatchInbox) :
      InboxStep sha256 world ⟨db, world.replies ++ [reply]⟩
  | admitted (envelope : DispatchEnvelope) (entry : DispatchOutboxEntry)
      (admission : DispatchInboxAdmission)
      (built : DispatchEnvelope.contract.Built sha256 envelope)
      (accepts : DurableDispatchInboxService.Accepts sha256 world.db envelope entry admission)
      (fresh : admission.row.Fresh world.db) (bound : admission.row.Bound world.db) :
      InboxStep sha256 world
        ⟨world.db.setDispatchInbox (world.db.dispatchInbox ++ [admission.row]),
          world.replies ++ [.ok (.delivered envelope ⟨.admitted, admission⟩)]⟩

variable {sha256 : String → String}

theorem InboxWorld.step_cases (world : InboxWorld) (call : InboxCall sha256) :
    InboxStep sha256 world (world.step call) := by
  cases returned : call.body world.db with
  | error error =>
      simp only [step, Transaction.commit_of_error returned]
      exact .kept _ _ rfl ⟨[], (List.append_nil _).symm⟩ rfl
  | ok outcome =>
      obtain ⟨reply, db⟩ := outcome
      simp only [step, Transaction.commit_of_ok returned]
      cases call with
      | deliver service envelope built =>
          simp only [InboxCall.body, bind_eq_ok, pure_eq_ok, Prod.mk.injEq] at returned
          obtain ⟨⟨result, next⟩, delivered, rfl, rfl⟩ := returned
          cases admit_eq_ok delivered with
          | duplicate admission => exact .kept _ _ rfl ⟨[], (List.append_nil _).symm⟩ rfl
          | admitted entry admission accepts fresh bound =>
              exact .admitted envelope entry admission built accepts fresh bound
      | enqueue row =>
          simp only [InboxCall.body, bind_eq_ok, pure_eq_ok, Prod.mk.injEq] at returned
          obtain ⟨_, inserted, rfl, rfl⟩ := returned
          obtain ⟨rfl, -⟩ := Database.insertDispatchOutbox_eq_ok inserted
          exact .kept _ _ rfl ⟨[row], rfl⟩ rfl
      | elsewhere other =>
          cases returned
          exact .kept _ _ rfl ⟨[], (List.append_nil _).symm⟩ rfl

/-- What every call keeps. -/
structure InboxInvariant (sha256 : String → String) (world : InboxWorld) : Prop where
  /-- The inbox holds exactly the admissions that deliveries returned. -/
  reported : (admissionsOf world.replies).map (·.2.row) = world.db.dispatchInbox
  /-- Each admission accepts its envelope. -/
  accepted : ∀ delivery ∈ admissionsOf world.replies,
    DispatchEnvelope.contract.Built sha256 delivery.1 ∧
      ∃ entry, DurableDispatchInboxService.Accepts sha256 world.db delivery.1 entry delivery.2
  /-- Each admission repeats a stored outbox row. -/
  bound : ∀ row ∈ world.db.dispatchInbox, row.Bound world.db
  dispatches : Table.Keyed (·.dispatchId) world.db.dispatchInbox
  entries : Table.Keyed (·.outboxId) world.db.dispatchInbox
  entryDigests : Table.Keyed (·.outboxEntryDigest) world.db.dispatchInbox

namespace InboxInvariant

variable {sha256 : String → String} {world next : InboxWorld}

theorem start (store : Database) : InboxInvariant sha256 (InboxWorld.start store) where
  reported := rfl
  accepted := by rintro _ ⟨⟩
  bound := by rintro _ ⟨⟩
  dispatches := Table.keyed_nil
  entries := Table.keyed_nil
  entryDigests := Table.keyed_nil

theorem step (invariant : InboxInvariant sha256 world) (step : InboxStep sha256 world next) :
    InboxInvariant sha256 next := by
  cases step with
  | kept db reply silent outbox inbox =>
      have same : admissionsOf (world.replies ++ [reply]) = admissionsOf world.replies := by
        simp [admissionsOf, silent]
      refine ⟨?_, ?_, ?_, ?_, ?_, ?_⟩
      · rw [same, inbox]
        exact invariant.reported
      · intro delivery member
        rw [same] at member
        obtain ⟨built, entry, accepts⟩ := invariant.accepted delivery member
        exact ⟨built, entry, accepts.mono outbox⟩
      · intro row member
        rw [inbox] at member
        obtain ⟨other, otherMember, admits⟩ := invariant.bound row member
        obtain ⟨rows, outbox⟩ := outbox
        exact ⟨other, outbox ▸ List.mem_append_left _ otherMember, admits⟩
      · rw [inbox]
        exact invariant.dispatches
      · rw [inbox]
        exact invariant.entries
      · rw [inbox]
        exact invariant.entryDigests
  | admitted envelope entry admission built accepts fresh bound =>
      have last : admissionsOf (world.replies ++
          [.ok (.delivered envelope ⟨.admitted, admission⟩)]) =
          admissionsOf world.replies ++ [(envelope, admission)] := by
        rw [admissionsOf, List.filterMap_append]
        rfl
      have unchanged : ∃ rows, world.db.dispatchOutbox = world.db.dispatchOutbox ++ rows :=
        ⟨[], (List.append_nil _).symm⟩
      refine ⟨?_, ?_, ?_, ?_, ?_, ?_⟩
      · rw [last, List.map_append, invariant.reported]
        rfl
      · intro delivery member
        rw [last, List.mem_append, List.mem_singleton] at member
        rcases member with earlier | rfl
        · obtain ⟨earlierBuilt, earlierEntry, earlierAccepts⟩ := invariant.accepted delivery earlier
          exact ⟨earlierBuilt, earlierEntry, earlierAccepts.mono unchanged⟩
        · exact ⟨built, entry, accepts.mono unchanged⟩
      · intro row member
        rcases List.mem_append.mp member with earlier | new
        · exact invariant.bound row earlier
        · obtain rfl := List.mem_singleton.mp new
          exact bound
      · exact invariant.dispatches.append fun other member => (fresh other member).2.1
      · exact invariant.entries.append fun other member => (fresh other member).2.2.1
      · exact invariant.entryDigests.append fun other member => (fresh other member).2.2.2.1

theorem run (invariant : InboxInvariant sha256 world) (calls : List (InboxCall sha256)) :
    InboxInvariant sha256 (Transaction.run InboxWorld.step world calls) :=
  Transaction.run_invariant (fun state call held => held.step (state.step_cases call)) invariant
    calls

end InboxInvariant

theorem InboxStep.admissions_kept {world next : InboxWorld} (step : InboxStep sha256 world next) :
    world.db.dispatchInbox <+: next.db.dispatchInbox ∧ world.replies <+: next.replies := by
  cases step with
  | kept db reply silent outbox inbox =>
      exact ⟨inbox ▸ List.prefix_rfl, List.prefix_append _ _⟩
  | admitted envelope entry admission built accepts fresh bound =>
      exact ⟨List.prefix_append _ _, List.prefix_append _ _⟩

/-- Admissions stay over every run, in the inbox and among the replies. -/
theorem InboxWorld.admissions_kept (world : InboxWorld) (calls : List (InboxCall sha256)) :
    let after := Transaction.run InboxWorld.step world calls
    world.db.dispatchInbox <+: after.db.dispatchInbox ∧ world.replies <+: after.replies := by
  induction calls generalizing world with
  | nil => exact ⟨List.prefix_rfl, List.prefix_rfl⟩
  | cons call calls induction =>
      obtain ⟨inbox, replies⟩ := (world.step_cases call).admissions_kept
      obtain ⟨laterInbox, laterReplies⟩ := induction (world.step call)
      exact ⟨inbox.trans laterInbox, replies.trans laterReplies⟩

structure InboxSafety (sha256 : String → String) (world : InboxWorld) : Prop where
  /-- A dispatch has at most one admission. -/
  dispatches : (world.db.dispatchInbox.map (·.dispatchId)).Nodup
  /-- An outbox entry has at most one admission, by its identifier and by its digest. -/
  entries : (world.db.dispatchInbox.map (·.outboxId)).Nodup ∧
    (world.db.dispatchInbox.map (·.outboxEntryDigest)).Nodup
  /-- Each admission agrees with a stored outbox row. -/
  agreement : ∀ row ∈ world.db.dispatchInbox, ∃ outbox ∈ world.db.dispatchOutbox, row.Admits outbox
  /-- The inbox holds exactly the admissions that deliveries returned. -/
  reported : (admissionsOf world.replies).map (·.2.row) = world.db.dispatchInbox
  /-- A call that raises changes nothing. -/
  atomic : ∀ (call : InboxCall sha256) error,
    (Transaction.commit call.body world.db).1 = .error error → (world.step call).db = world.db

theorem InboxInvariant.safety {world : InboxWorld} (invariant : InboxInvariant sha256 world) :
    InboxSafety sha256 world where
  dispatches := invariant.dispatches
  entries := ⟨invariant.entries, invariant.entryDigests⟩
  agreement := invariant.bound
  reported := invariant.reported
  atomic _ _ raised := Transaction.commit_rollback raised

/-- What an admitted entry answers to its envelopes. -/
structure Settled (sha256 : String → String) (db : Database) (envelope : DispatchEnvelope)
    (entry : DispatchOutboxEntry) (admission : DispatchInboxAdmission) : Prop where
  stored : admission.row ∈ db.dispatchInbox
  offered : Offers sha256 db entry
  bound : envelope.BoundTo sha256 entry
  /-- The admitted envelope gets the stored admission, and nothing changes. -/
  duplicate : ∀ service : DurableDispatchInboxService,
    service.admitEnvelope sha256 envelope db = .ok (⟨.duplicateRedelivery, admission⟩, db)
  /-- A different envelope of the entry raises the conflict, unless the canonical texts of the two
  envelopes have one digest. -/
  conflict : ∀ (service : DurableDispatchInboxService) (other : DispatchEnvelope),
    DispatchEnvelope.contract.Built sha256 other → other.BoundTo sha256 entry → other ≠ envelope →
      service.admitEnvelope sha256 other db = .error contentConflict ∨
        Collision sha256 (DispatchEnvelope.contract.digestText other)
          (DispatchEnvelope.contract.digestText envelope)
  /-- An envelope that names the entry without binding it is refused. -/
  mismatch : ∀ (service : DurableDispatchInboxService) (other : DispatchEnvelope),
    other.outboxId = entry.outboxId → ¬other.BoundTo sha256 entry →
      service.admitEnvelope sha256 other db = .error (denied "OUTBOX_BINDING_MISMATCH")

theorem InboxInvariant.settled {world : InboxWorld} (invariant : InboxInvariant sha256 world)
    {envelope : DispatchEnvelope} {admission : DispatchInboxAdmission}
    (member : (envelope, admission) ∈ admissionsOf world.replies) :
    ∃ entry, Settled sha256 world.db envelope entry admission := by
  obtain ⟨built, entry, accepts⟩ := invariant.accepted _ member
  have stored : admission.row ∈ world.db.dispatchInbox := by
    rw [← invariant.reported]
    exact List.mem_map_of_mem member
  refine ⟨entry, stored, accepts.offered, accepts.bound, fun service => ?_,
    fun service other otherBuilt otherBound different => ?_, fun service other named unbound => ?_⟩
  · exact accepts.admit_again invariant.dispatches stored
  · have digests := Contract.digest_ne_or_collision DispatchEnvelope.lawful
      DispatchEnvelope.claims_alike otherBuilt built different
    rcases digests with digests | collision
    · exact .inl (accepts.admit_other invariant.dispatches stored otherBound digests)
    · exact .inr collision
  · exact accepts.admit_of_unbound named unbound

/-- At-most-once, content-stable admission over whole runs: what a delivery admitted stays in the
inbox and keeps its answers in every later state. -/
theorem dispatchInbox_once (sha256 : String → String) (store : Database)
    (calls later : List (InboxCall sha256)) :
    let world := Transaction.run InboxWorld.step (InboxWorld.start store) calls
    let after := Transaction.run InboxWorld.step world later
    InboxSafety sha256 world ∧ world.db.dispatchInbox <+: after.db.dispatchInbox ∧
      ∀ envelope admission, (envelope, admission) ∈ admissionsOf world.replies →
        ∃ entry, Settled sha256 after.db envelope entry admission := by
  intro world after
  have invariant : InboxInvariant sha256 world := (InboxInvariant.start store).run calls
  obtain ⟨inbox, replies⟩ := world.admissions_kept later
  refine ⟨invariant.safety, inbox, fun envelope admission member => ?_⟩
  have kept : (envelope, admission) ∈ admissionsOf after.replies :=
    (replies.filterMap _).subset member
  exact (invariant.run later).settled kept

end VoodooOne
