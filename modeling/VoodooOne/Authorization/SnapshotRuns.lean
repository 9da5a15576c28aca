import VoodooOne.Authorization.AuthorityEvidence

/-!
# Snapshots over runs

In every run of creations each stored snapshot has one key and one witness event.  A key that is
taken is answered with its snapshot or refused, and nothing is written.
-/

namespace VoodooOne

open AuthoritativeSnapshotCreator SnapshotAuthorityEvidence

theorem Json.fields_eq_of_get {fields expected : List (String × Json)}
    (names : fields.map Prod.fst = expected.map Prod.fst) (distinct : (fields.map Prod.fst).Nodup)
    (answers : ∀ entry ∈ expected, (Json.object fields).get entry.1 = entry.2) :
    fields = expected := by
  have lengths : fields.length = expected.length := by
    simpa using congrArg List.length names
  refine List.ext_getElem lengths fun index inFields inExpected => ?_
  have name : fields[index].1 = expected[index].1 := by
    have both := congrArg (·[index]?) names
    simpa [inFields, inExpected] using both
  have given := Json.get_object_of_mem distinct (List.getElem_mem inFields)
  have answered := answers _ (List.getElem_mem inExpected)
  rw [← name] at answered
  exact Prod.ext name (given.symm.trans answered)

variable {sha256 : String → String}

structure Authorizes (surroundings : SnapshotSurroundings) (db : Database)
    (actorId requestId : String) (sha256 : String → String) (authorization : Authorization) :
    Prop where
  created : authorization.snapshot.Created sha256
  actorId : authorization.snapshot.actorId = actorId
  requestId : authorization.snapshot.requestId = requestId
  running : db.emergencyStopActive = false
  epoch : surroundings.currentEpoch db authorization.snapshot.workspaceId
    authorization.snapshot.environment authorization.snapshot.capabilityDefinitionIdentity =
      .ok (.int authorization.witnesses.revocationEpoch)

theorem resolveRevocationEpoch_eq_ok {surroundings : SnapshotSurroundings} {db : Database}
    {workspaceId environment identity : String} {epoch : Int}
    (resolved : resolveRevocationEpoch surroundings db workspaceId environment identity =
      .ok epoch) :
    surroundings.currentEpoch db workspaceId environment identity = .ok (.int epoch) := by
  simp only [resolveRevocationEpoch, bind_eq_ok, catching_eq_ok] at resolved
  obtain ⟨answer, answered, accepted⟩ := resolved
  obtain ⟨rfl, -⟩ := DurableGrantService.epochAnswer_eq_ok accepted
  exact answered

theorem authorize_eq_ok {creator : AuthoritativeSnapshotCreator sha256}
    {surroundings : SnapshotSurroundings} {actorId requestId : String} {db : Database}
    {authorization : Authorization}
    (authorized : creator.authorize surroundings actorId requestId db = .ok authorization) :
    Authorizes surroundings db actorId requestId sha256 authorization := by
  simp only [authorize, bind_eq_ok, raiseIf_eq_ok, catching_eq_ok, pure_eq_ok] at authorized
  obtain ⟨⟨request, reviewDigest⟩, -, _, -, _, running, selection, -, ⟨definition, activation⟩, -,
    binding, bound, policy, -, clockWitness, -, evidence, loaded, certificate, -, decision, -,
    epoch, resolved, witnesses, witnessed, snapshot, created, rfl⟩ := authorized
  obtain ⟨own, isTarget, isEvidence, -⟩ := AuthorizationSnapshot.create_eq_ok.mp created
  have fields := Json.fields_eq_of_get (by rfl) (by simp [attributes]) own
  simp only [attributes, AuthorizationSnapshot.directFields, List.cons.injEq, Prod.mk.injEq,
    Json.str.injEq, true_and] at fields
  obtain ⟨-, -, isRequest, -, isActor, isWorkspace, isEnvironment, -, isDefinition, -⟩ := fields
  obtain ⟨isEpoch, -⟩ := AuthorityWitnessSet.create_eq_ok witnessed
  refine
    { created := ⟨⟨_, _, _, created⟩, isTarget ▸ bindTarget_eq_ok bound,
        isEvidence ▸ loadApprovalEvidence_eq_ok loaded⟩
      actorId := isActor.symm
      requestId := isRequest.symm
      running := by simpa using running
      epoch := ?_ }
  dsimp only
  rw [isEpoch, ← isWorkspace, ← isEnvironment, ← isDefinition]
  exact resolveRevocationEpoch_eq_ok resolved

/-- What a creation under a fresh key does. -/
structure Creates (sha256 : String → String) (surroundings : SnapshotSurroundings)
    (idempotencyKey correlationId : String) (authorization : Authorization) (db next : Database)
    (event : AuditEventRow) : Prop where
  fresh : (authorization.snapshot.row sha256 idempotencyKey surroundings.supplies.createdAt).Fresh
    db
  snapshots : next.authorizationSnapshots = db.authorizationSnapshots ++
    [authorization.snapshot.row sha256 idempotencyKey surroundings.supplies.createdAt]
  witness : Witnesses authorization.snapshot.snapshotId event ∧
    event.payload = (witnessEntry authorization.snapshot correlationId authorization.selection
      authorization.witnesses).payload
  events : ∃ creation : AuditEventRow, creation.action = "authorization_snapshot.create" ∧
    next.auditEvents = db.auditEvents ++ [creation, event]

theorem store_fresh {surroundings : SnapshotSurroundings} {idempotencyKey correlationId : String}
    {authorization : Authorization} {stored : AuthorizationSnapshot} {db next : Database}
    (unused : Table.lookup (·.idempotencyKey) db.authorizationSnapshots idempotencyKey = none)
    (returned : store sha256 surroundings idempotencyKey correlationId authorization db =
      .ok (stored, next)) :
    stored = authorization.snapshot ∧
      ∃ event, Creates sha256 surroundings idempotencyKey correlationId authorization db next
        event := by
  simp only [store, bind_eq_ok, unused, pure_eq_ok, Prod.mk.injEq] at returned
  obtain ⟨⟨persisted, between⟩, isPersisted, audited, appended, rfl, rfl⟩ := returned
  obtain ⟨rfl, inserted, rfl, fresh, rfl⟩ :=
    AuthorizationSnapshotStore.persist_fresh unused isPersisted
  obtain ⟨rfl, -⟩ := Database.appendAudit_eq_ok appended
  refine ⟨rfl, _, ⟨fresh, rfl, ⟨⟨rfl, rfl, rfl⟩, rfl⟩, _, ?_, List.append_assoc _ _ _⟩⟩
  rfl

theorem store_taken {surroundings : SnapshotSurroundings}
    {idempotencyKey correlationId createdAt : String} {authorization : Authorization}
    {stored : AuthorizationSnapshot} {db : Database} (created : stored.Created sha256)
    (found : Table.lookup (·.idempotencyKey) db.authorizationSnapshots idempotencyKey =
      some (stored.row sha256 idempotencyKey createdAt))
    (key : ValidText idempotencyKey) (correlation : ValidText correlationId) :
    store sha256 surroundings idempotencyKey correlationId authorization db =
      if authorization.snapshot.idempotencyBindingDigest sha256 =
          stored.idempotencyBindingDigest sha256 then .ok (stored, db)
      else .error AuthorizationSnapshotStore.bindingConflict := by
  rw [store, AuthorizationSnapshotStore.persist_taken created found key correlation]
  split
  · rw [ok_bind]
    dsimp only
    rw [found]
    rfl
  · rfl

theorem createSnapshot_eq_store {creator : AuthoritativeSnapshotCreator sha256}
    {surroundings : SnapshotSurroundings} {actorId requestId idempotencyKey correlationId : String}
    {db : Database} {authorization : Authorization}
    (authorized : creator.authorize surroundings actorId requestId db = .ok authorization)
    (key : ValidText idempotencyKey) (correlation : ValidText correlationId) :
    creator.createSnapshot surroundings actorId requestId idempotencyKey correlationId db =
      store sha256 surroundings idempotencyKey correlationId authorization db := by
  have authorizes := authorize_eq_ok authorized
  have texts := authorizes.created.valid.texts
  have actor : ValidText actorId := authorizes.actorId ▸ texts _ (by simp)
  have request : ValidText requestId := authorizes.requestId ▸ texts _ (by simp)
  have text {value : String} (field : String) (valid : ValidText value) :
      requireText (.str value) field = .ok value := requireText_eq_ok.mpr ⟨rfl, valid⟩
  rw [createSnapshot, text _ actor, ok_bind, text _ request, ok_bind, text _ key, ok_bind,
    text _ correlation, ok_bind, authorized, ok_bind]

theorem createSnapshot_eq_ok {creator : AuthoritativeSnapshotCreator sha256}
    {surroundings : SnapshotSurroundings} {actorId requestId idempotencyKey correlationId : String}
    {db next : Database} {stored : AuthorizationSnapshot}
    (returned : creator.createSnapshot surroundings actorId requestId idempotencyKey correlationId
      db = .ok (stored, next)) :
    ValidText idempotencyKey ∧ ValidText correlationId ∧ ∃ authorization,
      creator.authorize surroundings actorId requestId db = .ok authorization ∧
        store sha256 surroundings idempotencyKey correlationId authorization db =
          .ok (stored, next) := by
  simp only [createSnapshot, bind_eq_ok, requireText_eq_ok, Json.str.injEq] at returned
  obtain ⟨_, ⟨rfl, -⟩, _, ⟨rfl, -⟩, _, ⟨rfl, key⟩, _, ⟨rfl, correlation⟩, authorization, authorized,
    stored⟩ := returned
  exact ⟨key, correlation, authorization, authorized, stored⟩

/-- The fields that a repeated creation must repeat. -/
def AuthorizationSnapshot.bindingFields (snapshot : AuthorizationSnapshot) : List (String × Json) :=
  snapshot.claimFields.filter fun field =>
    field.1 ∉ ["snapshot_id", "execution_id", "authorized_at"]

/-- Two snapshots with one binding digest have one binding, unless their texts collide. -/
theorem AuthorizationSnapshot.bindingFields_eq_or_collision {left right : AuthorizationSnapshot}
    (same : left.idempotencyBindingDigest sha256 = right.idempotencyBindingDigest sha256) :
    left.bindingFields = right.bindingFields ∨
      (canonicalJson (.object left.bindingFields) ≠ canonicalJson (.object right.bindingFields) ∧
        sha256 (canonicalJson (.object left.bindingFields)) =
          sha256 (canonicalJson (.object right.bindingFields))) := by
  by_cases texts : canonicalJson (.object left.bindingFields) =
      canonicalJson (.object right.bindingFields)
  · left
    have fixed (snapshot : AuthorizationSnapshot) : ∀ field ∈ snapshot.bindingFields,
        field.2.WellFormed default ∧ field.2.normal = field.2 := by
      intro field member
      have claim : field ∈ snapshot.claimFields := List.mem_of_mem_filter member
      simp only [claimFields, directFields, derivedFields, List.cons_append, List.nil_append,
        List.mem_cons, List.not_mem_nil, or_false] at claim
      rcases claim with rfl | claim
      · exact ⟨.int 1 (by decide), rfl⟩
      · rcases claim with rfl | rfl | rfl | rfl | rfl | rfl | rfl | rfl | rfl | rfl | rfl | rfl |
          rfl | rfl | rfl | rfl | rfl | rfl | rfl | rfl | rfl | rfl | rfl | rfl
        all_goals exact ⟨.str _, rfl⟩
    have normal (snapshot : AuthorizationSnapshot) :
        Json.normalFields snapshot.bindingFields = snapshot.bindingFields := by
      rw [Json.normalFields_eq_map]
      refine (List.map_congr_left fun field member => ?_).trans (List.map_id _)
      rw [(fixed snapshot field member).2]
      rfl
    have names (snapshot : AuthorizationSnapshot) : snapshot.bindingFields.map Prod.fst =
        fieldNames.dropLast.filter (· ∉ ["snapshot_id", "execution_id", "authorized_at"]) := by
      simp [bindingFields, claimFields, directFields, derivedFields, fieldNames]
    have distinct : (left.bindingFields.map Prod.fst).Nodup := by
      rw [names]
      exact List.Nodup.filter _ (by simp [fieldNames])
    have fields := fields_of_canonicalJson ((names left).trans (names right).symm) distinct
      (fun field member => (fixed left field member).1)
      (fun field member => (fixed right field member).1) texts
    rwa [normal, normal] at fields
  · exact .inr ⟨texts, same⟩

/-- One call: a creation, an audit event of another kind, or any change of other tables. -/
inductive SnapshotCall (sha256 : String → String) where
  | create (creator : AuthoritativeSnapshotCreator sha256) (surroundings : SnapshotSurroundings)
      (actorId requestId idempotencyKey correlationId : String)
  | audit (stamp : Stamp) (entry : AuditEntry)
      (other : ¬(entry.action = witnessAction ∧ entry.targetType = "authorization_snapshot"))
  | elsewhere (other : Database)

namespace SnapshotCall

def step (db : Database) : SnapshotCall sha256 → Database
  | create creator surroundings actorId requestId idempotencyKey correlationId =>
      (Transaction.commit (creator.createSnapshot surroundings actorId requestId idempotencyKey
        correlationId) db).2
  | audit stamp entry _ =>
      (Transaction.commit (fun db => do
        let next ← db.appendAudit sha256 stamp entry
        return ((), next)) db).2
  | elsewhere other =>
      (other.setAuthorizationSnapshots db.authorizationSnapshots).setAuditEvents db.auditEvents

end SnapshotCall

def Database.witnessEvents (db : Database) : List AuditEventRow :=
  db.auditEvents.filter fun event =>
    event.action = witnessAction ∧ event.targetType = "authorization_snapshot"

/-- Each row is that of a snapshot under a key of its own, and the witness events are those of the
rows. -/
structure SnapshotsWitnessed (sha256 : String → String) (db : Database) : Prop where
  ids : Table.Keyed (·.id) db.authorizationSnapshots
  keys : Table.Keyed (·.idempotencyKey) db.authorizationSnapshots
  rows : ∀ row ∈ db.authorizationSnapshots, ValidText row.idempotencyKey ∧
    ∃ snapshot : AuthorizationSnapshot, snapshot.Created sha256 ∧
      row = snapshot.row sha256 row.idempotencyKey row.createdAt
  witnessed : db.witnessEvents.map (·.targetId) = db.authorizationSnapshots.map (·.id)

namespace SnapshotsWitnessed

variable {db next : Database}

theorem start (store : Database) :
    SnapshotsWitnessed sha256 ((store.setAuthorizationSnapshots []).setAuditEvents []) where
  ids := Table.keyed_nil
  keys := Table.keyed_nil
  rows := List.forall_mem_nil _
  witnessed := rfl

theorem congr (held : SnapshotsWitnessed sha256 db)
    (snapshots : next.authorizationSnapshots = db.authorizationSnapshots)
    (events : next.witnessEvents = db.witnessEvents) : SnapshotsWitnessed sha256 next where
  ids := snapshots ▸ held.ids
  keys := snapshots ▸ held.keys
  rows := snapshots ▸ held.rows
  witnessed := by rw [events, snapshots, held.witnessed]

theorem create {surroundings : SnapshotSurroundings} {idempotencyKey correlationId : String}
    {authorization : Authorization} {event : AuditEventRow} (held : SnapshotsWitnessed sha256 db)
    (key : ValidText idempotencyKey) (created : authorization.snapshot.Created sha256)
    (creates : Creates sha256 surroundings idempotencyKey correlationId authorization db next
      event) :
    SnapshotsWitnessed sha256 next := by
  obtain ⟨creation, other, events⟩ := creates.events
  obtain ⟨isEvent, -⟩ := creates.witness
  have snapshots := creates.snapshots
  refine
    { ids := snapshots ▸ held.ids.append fun row member => (creates.fresh row member).1
      keys := snapshots ▸ held.keys.append fun row member => (creates.fresh row member).2.2.1
      rows := ?_
      witnessed := ?_ }
  · rw [snapshots]
    intro row member
    rcases List.mem_append.mp member with old | new
    · exact held.rows row old
    · obtain rfl := List.mem_singleton.mp new
      exact ⟨key, authorization.snapshot, created, rfl⟩
  · have apart : creation.action ≠ witnessAction := by
      rw [other]
      decide
    rw [Database.witnessEvents, events, snapshots, List.filter_append, List.map_append,
      List.map_append, ← Database.witnessEvents, held.witnessed]
    simp [apart, isEvent.1, isEvent.2.1, isEvent.2.2, AuthorizationSnapshot.row]

theorem of_lookup {idempotencyKey : String} {row : AuthorizationSnapshotRow}
    (held : SnapshotsWitnessed sha256 db)
    (found : Table.lookup (·.idempotencyKey) db.authorizationSnapshots idempotencyKey = some row) :
    ValidText idempotencyKey ∧ ∃ snapshot : AuthorizationSnapshot, snapshot.Created sha256 ∧
      row = snapshot.row sha256 idempotencyKey row.createdAt := by
  obtain ⟨member, rfl⟩ := Table.mem_of_lookup found
  exact held.rows row member

theorem taken {creator : AuthoritativeSnapshotCreator sha256} {surroundings : SnapshotSurroundings}
    {actorId requestId idempotencyKey correlationId : String} {row : AuthorizationSnapshotRow}
    (held : SnapshotsWitnessed sha256 db)
    (found : Table.lookup (·.idempotencyKey) db.authorizationSnapshots idempotencyKey = some row) :
    (Transaction.commit (creator.createSnapshot surroundings actorId requestId idempotencyKey
      correlationId) db).2 = db := by
  refine Transaction.commit_cases (motive := (· = db)) _ db rfl fun stored next returned => ?_
  obtain ⟨key, correlation, authorization, -, isStored⟩ := createSnapshot_eq_ok returned
  obtain ⟨-, snapshot, created, same⟩ := held.of_lookup found
  rw [same] at found
  rw [store_taken created found key correlation] at isStored
  split at isStored
  · cases isStored
    rfl
  · cases isStored

protected theorem step (held : SnapshotsWitnessed sha256 db) (call : SnapshotCall sha256) :
    SnapshotsWitnessed sha256 (SnapshotCall.step db call) := by
  cases call with
  | create creator surroundings actorId requestId idempotencyKey correlationId =>
      cases found : Table.lookup (·.idempotencyKey) db.authorizationSnapshots idempotencyKey with
      | some row =>
          rw [SnapshotCall.step, held.taken found]
          exact held
      | none =>
          refine Transaction.commit_cases _ db held fun stored next returned => ?_
          obtain ⟨key, -, authorization, authorized, isStored⟩ := createSnapshot_eq_ok returned
          obtain ⟨-, event, creates⟩ := store_fresh found isStored
          exact held.create key (authorize_eq_ok authorized).created creates
  | audit stamp entry other =>
      refine Transaction.commit_cases _ db held fun result next returned => ?_
      simp only [bind_eq_ok, pure_eq_ok, Prod.mk.injEq] at returned
      obtain ⟨_, appended, -, rfl⟩ := returned
      obtain ⟨rfl, -⟩ := Database.appendAudit_eq_ok appended
      refine held.congr rfl ?_
      rw [Database.witnessEvents, Database.setAuditEvents_auditEvents, List.filter_append,
        ← Database.witnessEvents]
      have apart : ¬((db.auditRow sha256 stamp entry).action = witnessAction ∧
        (db.auditRow sha256 stamp entry).targetType = "authorization_snapshot") := other
      simp [apart]
  | elsewhere other => exact held.congr rfl rfl

theorem run (held : SnapshotsWitnessed sha256 db) (calls : List (SnapshotCall sha256)) :
    SnapshotsWitnessed sha256 (Transaction.run SnapshotCall.step db calls) :=
  Transaction.run_invariant (fun _ call held => held.step call) held calls

theorem only (held : SnapshotsWitnessed sha256 db) {row : AuthorizationSnapshotRow}
    (member : row ∈ db.authorizationSnapshots) :
    ∃ event, (db.auditEvents.filter fun event => Witnesses row.id event) = [event] := by
  have keyed : Table.Keyed (·.targetId) db.witnessEvents := by
    rw [Table.Keyed, held.witnessed]
    exact held.ids
  have there : row.id ∈ db.witnessEvents.map (·.targetId) :=
    held.witnessed ▸ List.mem_map_of_mem member
  obtain ⟨event, isEvent, target⟩ := List.mem_map.mp there
  have selected : (db.auditEvents.filter fun event => Witnesses row.id event) =
      db.witnessEvents.filter (·.targetId = row.id) := by
    rw [Database.witnessEvents, List.filter_filter]
    refine List.filter_congr fun event _ => ?_
    rw [← Bool.decide_and, decide_eq_decide]
    exact ⟨fun ⟨action, type, target⟩ => ⟨target, action, type⟩,
      fun ⟨target, action, type⟩ => ⟨action, type, target⟩⟩
  rw [selected, ← List.length_eq_one_iff, ← List.countP_eq_length_filter]
  refine keyed.countP_eq_one isEvent fun other _ => ?_
  rw [decide_eq_true_eq, target]

end SnapshotsWitnessed

/-- A key that is taken answers with its snapshot or refuses, and each stored snapshot has exactly
one witness event. -/
theorem snapshotCreation_idempotent (sha256 : String → String) (store : Database)
    (calls : List (SnapshotCall sha256)) :
    let db := Transaction.run SnapshotCall.step
      ((store.setAuthorizationSnapshots []).setAuditEvents []) calls
    ∀ row ∈ db.authorizationSnapshots, ∃ snapshot : AuthorizationSnapshot,
      row = snapshot.row sha256 row.idempotencyKey row.createdAt ∧
      (∃ event, (db.auditEvents.filter fun event => Witnesses snapshot.snapshotId event) =
        [event]) ∧
      load sha256 db snapshot ≠ .error ambiguous ∧
      ∀ (creator : AuthoritativeSnapshotCreator sha256) (surroundings : SnapshotSurroundings)
        (actorId requestId correlationId : String),
        let again := Transaction.commit (creator.createSnapshot surroundings actorId requestId
          row.idempotencyKey correlationId) db
        again.2 = db ∧
        ∀ authorization, creator.authorize surroundings actorId requestId db = .ok authorization →
          ValidText correlationId →
          again.1 = (if authorization.snapshot.idempotencyBindingDigest sha256 =
              snapshot.idempotencyBindingDigest sha256 then .ok snapshot
            else .error AuthorizationSnapshotStore.bindingConflict) ∧
          (authorization.snapshot.bindingFields = snapshot.bindingFields → again.1 = .ok snapshot) ∧
          (authorization.snapshot.bindingFields ≠ snapshot.bindingFields →
            again.1 = .error AuthorizationSnapshotStore.bindingConflict ∨
            canonicalJson (.object authorization.snapshot.bindingFields) ≠
                canonicalJson (.object snapshot.bindingFields) ∧
              sha256 (canonicalJson (.object authorization.snapshot.bindingFields)) =
                sha256 (canonicalJson (.object snapshot.bindingFields))) := by
  intro db row member
  have held : SnapshotsWitnessed sha256 db := (SnapshotsWitnessed.start store).run calls
  have found := held.keys.lookup_of_mem member
  obtain ⟨key, snapshot, created, same⟩ := held.rows row member
  obtain ⟨event, only⟩ := held.only member
  have id : row.id = snapshot.snapshotId := congrArg AuthorizationSnapshotRow.id same
  rw [id] at only
  refine ⟨snapshot, same, ⟨event, only⟩, load_ne_ambiguous only,
    fun creator surroundings actorId requestId correlationId => ?_⟩
  refine ⟨held.taken found, fun authorization authorized correlation => ?_⟩
  have answer : (Transaction.commit (creator.createSnapshot surroundings actorId requestId
      row.idempotencyKey correlationId) db).1 =
      if authorization.snapshot.idempotencyBindingDigest sha256 =
        snapshot.idempotencyBindingDigest sha256 then .ok snapshot
      else .error AuthorizationSnapshotStore.bindingConflict := by
    have stored : Table.lookup (·.idempotencyKey) db.authorizationSnapshots row.idempotencyKey =
        some (snapshot.row sha256 row.idempotencyKey row.createdAt) := same ▸ found
    have returned := (createSnapshot_eq_store authorized key correlation).trans
      (store_taken created stored key correlation)
    split at returned
    · next equal => rw [Transaction.commit_of_ok returned, if_pos equal]
    · next differ => rw [Transaction.commit_of_error returned, if_neg differ]
  refine ⟨answer, fun equal => ?_, fun differ => ?_⟩
  · rw [answer, if_pos]
    exact congrArg (fun fields => digestOf sha256 (.object fields)) equal
  · rw [answer]
    split
    · next equal =>
      exact .inr ((AuthorizationSnapshot.bindingFields_eq_or_collision equal).resolve_left differ)
    · exact .inl rfl

end VoodooOne
