import VoodooOne.Registry.Runs

/-!
# Generations of registry records

For each connector and each MCP server, the stored generation counts its accepted recordings, and
the audit log lists them without gap or duplicate.
-/

namespace VoodooOne

open DurableControlPlaneRegistry

/-- The generation stored under a key, 0 when there is no record. -/
def Database.storedGeneration (db : Database) (key : RegistryKey) : Int :=
  ((db.registryValue key).bind FlagValue.generation?).getD 0

def RegistryKey.Observes : RegistryKey → AuditEventRow → Prop
  | connector id, row => row.action = "control_plane.registry.connector.observed" ∧
      row.targetType = "control_plane_connector" ∧ row.targetId = id
  | mcp id, row => row.action = "control_plane.registry.mcp.observed" ∧
      row.targetType = "control_plane_mcp_server" ∧ row.targetId = id
  | _, _ => False

instance (key : RegistryKey) : DecidablePred key.Observes := fun row => by
  cases key <;> unfold RegistryKey.Observes <;> infer_instance

theorem RegistryKey.not_observes {key : RegistryKey} {row : AuditEventRow}
    (target : row.targetType ∈ ["control_plane_project", "system"]) : ¬key.Observes row := by
  intro observes
  cases key with
  | connector id =>
      rw [observes.2.1] at target
      exact absurd target (by decide)
  | mcp id =>
      rw [observes.2.1] at target
      exact absurd target (by decide)
  | _ => exact observes

def Database.loggedGenerations (db : Database) (key : RegistryKey) : List Json :=
  (db.auditEvents.filter fun row => key.Observes row).map fun row => row.payload.get "generation"

/-- The audit log lists the generations up to the stored one. -/
def Database.Listed (db : Database) (key : RegistryKey) : Prop :=
  ∃ count : ℕ, db.storedGeneration key = count ∧
    db.loggedGenerations key = (List.range' 1 count).map fun generation => .int generation

def RegistryWrite.recording? {interpreter : Interpreter} :
    RegistryWrite interpreter → Option (RegistryKey × Int × Json)
  | .recordConnector _ _ snapshot _ =>
      some (.connector snapshot.connectorId, snapshot.generation, snapshot.toDict)
  | .recordServer _ descriptor _ =>
      some (.mcp descriptor.serverId, descriptor.generation, descriptor.toDict)
  | _ => none

structure Recorded (db : Database) (key : RegistryKey) (generation : Int) (record : Json)
    (next : Database) : Prop where
  stored : next.registryValue key = some (.record record)
  shown : next.storedGeneration key = generation
  advanced : generation = db.storedGeneration key + 1
  logged : ∃ row, next.auditEvents = db.auditEvents ++ [row] ∧ key.Observes row ∧
    row.payload.get "generation" = .int generation
  others : ∀ other, other ≠ key → next.registryValue other = db.registryValue other

theorem ConnectorCapabilitySnapshot.generation?_toDict (snapshot : ConnectorCapabilitySnapshot) :
    (FlagValue.record snapshot.toDict).generation? = some snapshot.generation :=
  FlagValue.generation?_object (by simp [claims]) (by simp [claims])

theorem MCPServerDescriptor.generation?_toDict (descriptor : MCPServerDescriptor) :
    (FlagValue.record descriptor.toDict).generation? = some descriptor.generation :=
  FlagValue.generation?_object (by simp [claims]) (by simp [claims])

theorem Database.Follows.eq {db : Database} {key : RegistryKey} {generation : Int}
    (follows : db.Follows key generation) : generation = db.storedGeneration key + 1 := by
  unfold Follows at follows
  unfold storedGeneration
  cases found : db.registryValue key with
  | none =>
      rw [found] at follows
      simp [follows]
  | some value =>
      rw [found] at follows
      obtain ⟨current, shown, -, rfl⟩ := follows
      simp [shown]

theorem DurableControlPlaneRegistry.get_generation_observationRow (sha256 : String → String)
    (context : RecordingContext) (observation : Observation) (db : Database) :
    (observationRow sha256 context observation db).payload.get "generation" =
      .int observation.generation := by
  have member : ("generation", Json.int observation.generation) ∈
      [("generation", Json.int observation.generation),
        ("record_digest", Json.str observation.digest), ("record", observation.record)] :=
    List.mem_cons_self
  exact Json.get_object_of_mem (by simp) member

namespace RegistryStep

variable {interpreter : Interpreter} {db next : Database} {write : RegistryWrite interpreter}

theorem recorded (step : RegistryStep db write next) {key : RegistryKey} {generation : Int}
    {record : Json} (recording : write.recording? = some (key, generation, record)) :
    Recorded db key generation record next := by
  have others (other : RegistryKey) (apart : other ≠ key) :
      next.registryValue other = db.registryValue other := by
    apply step.kept
    intro names
    cases write <;> cases recording <;> exact apart (Option.some.inj names).symm
  cases step with
  | connector registry context snapshot built known follows =>
      cases recording
      have stored := db.registryValue_written (.connector snapshot.connectorId)
        (.record snapshot.toDict) context.actorId context.now
      refine ⟨stored, ?_, follows.eq, ⟨_, rfl, ⟨rfl, rfl, rfl⟩, ?_⟩, others⟩
      · rw [Database.storedGeneration, Database.registryValue, Database.setAuditEvents_runtimeFlags,
          ← Database.registryValue, stored, Option.bind_some, snapshot.generation?_toDict]
        rfl
      · exact get_generation_observationRow _ _ _ _
  | server context descriptor built follows =>
      cases recording
      have stored := db.registryValue_written (.mcp descriptor.serverId)
        (.record descriptor.toDict) context.actorId context.now
      refine ⟨stored, ?_, follows.eq, ⟨_, rfl, ⟨rfl, rfl, rfl⟩, ?_⟩, others⟩
      · rw [Database.storedGeneration, Database.registryValue, Database.setAuditEvents_runtimeFlags,
          ← Database.registryValue, stored, Option.bind_some, descriptor.generation?_toDict]
        rfl
      · exact get_generation_observationRow _ _ _ _
  | _ => cases recording

theorem unobserved (step : RegistryStep db write next) {key : RegistryKey}
    (other : ∀ generation record, write.recording? ≠ some (key, generation, record)) :
    ∃ row, next.auditEvents = db.auditEvents ++ [row] ∧ ¬key.Observes row := by
  cases step with
  | connector registry context snapshot =>
      refine ⟨_, rfl, fun observes => ?_⟩
      cases key with
      | connector id =>
          obtain ⟨-, -, rfl⟩ := observes
          exact other _ _ rfl
      | mcp id =>
          have target : "control_plane_connector" = "control_plane_mcp_server" := observes.2.1
          exact absurd target (by decide)
      | _ => exact observes
  | server context descriptor =>
      refine ⟨_, rfl, fun observes => ?_⟩
      cases key with
      | connector id =>
          have target : "control_plane_mcp_server" = "control_plane_connector" := observes.2.1
          exact absurd target (by decide)
      | mcp id =>
          obtain ⟨-, -, rfl⟩ := observes
          exact other _ _ rfl
      | _ => exact observes
  | project context project built entry action target =>
      exact ⟨_, rfl, RegistryKey.not_observes (List.mem_cons.mpr (.inl target))⟩
  | emergencyStop now stamp actorId active reason value entry system =>
      refine ⟨_, rfl, RegistryKey.not_observes ?_⟩
      exact List.mem_cons_of_mem _ (List.mem_singleton.mpr system)
  | _ => exact ⟨_, rfl, RegistryKey.not_observes List.mem_cons_self⟩

end RegistryStep

/-- The stored generation after a transaction that does not record under the key. -/
theorem RegistryStep.storedGeneration_kept {interpreter : Interpreter} {db next : Database}
    {write : RegistryWrite interpreter} (step : RegistryStep db write next) {key : RegistryKey}
    (other : write.key ≠ some key) : next.storedGeneration key = db.storedGeneration key := by
  rw [Database.storedGeneration, step.kept other, Database.storedGeneration]

def RegistryKey.Recordable : RegistryKey → Prop
  | connector _ | mcp _ => True
  | _ => False

theorem Database.Listed.step {interpreter : Interpreter} {db next : Database} {key : RegistryKey}
    (listed : db.Listed key) (recordable : key.Recordable) {write : RegistryWrite interpreter}
    (step : RegistryStep db write next) : next.Listed key := by
  obtain ⟨count, stored, logged⟩ := listed
  by_cases recording : ∃ generation record, write.recording? = some (key, generation, record)
  · obtain ⟨generation, record, recording⟩ := recording
    have recorded := step.recorded recording
    obtain ⟨row, appended, observes, shown⟩ := recorded.logged
    have follows : generation = ((count + 1 : ℕ) : Int) := by
      rw [recorded.advanced, stored]
      rfl
    refine ⟨count + 1, recorded.shown.trans follows, ?_⟩
    unfold Database.loggedGenerations at logged ⊢
    rw [appended, List.filter_append, List.map_append, logged, List.range'_concat, List.map_append]
    simp [observes, shown, follows, add_comm]
  · have none : ∀ generation record, write.recording? ≠ some (key, generation, record) :=
      fun generation record same => recording ⟨generation, record, same⟩
    have other : write.key ≠ some key := by
      intro names
      cases write <;> cases names <;> first | exact recordable | exact none _ _ rfl
    obtain ⟨row, appended, unobserved⟩ := step.unobserved none
    refine ⟨count, (step.storedGeneration_kept other).trans stored, ?_⟩
    unfold Database.loggedGenerations at logged ⊢
    rw [appended, List.filter_append, List.map_append, logged]
    simp [unobserved]

/-- What holds of generations in every state of a run. -/
structure GenerationsInvariant (interpreter : Interpreter) (world : RegistryWorld) : Prop where
  records : RecordsInvariant interpreter world.db
  listed : ∀ key : RegistryKey, key.Recordable → world.db.Listed key

theorem GenerationsInvariant.start (interpreter : Interpreter) (store : Database)
    (migratedAt : String) : GenerationsInvariant interpreter
      (RegistryWorld.start store migratedAt) where
  records := RecordsInvariant.start store migratedAt
  listed key _ := by
    have other := key.text_ne_emergencyStop.symm
    refine ⟨0, ?_, rfl⟩
    simp [Database.storedGeneration, Database.registryValue, RegistryWorld.start, Table.lookup,
      other]

theorem GenerationsInvariant.step {interpreter : Interpreter} {world : RegistryWorld}
    (invariant : GenerationsInvariant interpreter world) (call : RegistryCall interpreter) :
    GenerationsInvariant interpreter (world.step call) := by
  have move := world.step_cases invariant.records.keyed call
  generalize world.step call = next at move
  cases move with
  | kept call checked => exact ⟨invariant.records, invariant.listed⟩
  | committed write next checked enabled step =>
      refine ⟨invariant.records.step step, fun key recordable => ?_⟩
      exact (invariant.listed key recordable).step recordable step

inductive RecordingOutcome (db : Database) (key : RegistryKey) (generation : Int) (record : Json) :
    Except Raised Unit × Database → Prop where
  | accepted (next : Database) (recorded : Recorded db key generation record next) :
      RecordingOutcome db key generation record (.ok (), next)
  | rejected (error : Raised) : RecordingOutcome db key generation record (.error error, db)

/-- Registry generations over whole runs: the log of every connector and MCP server lists `1..n` up
to its stored generation, an accepted recording advances it by one and logs that generation, and a
rejected one changes nothing. -/
theorem registry_generations (interpreter : Interpreter) (store : Database) (migratedAt : String)
    (calls : List (RegistryCall interpreter)) :
    let world := Transaction.run RegistryWorld.step (RegistryWorld.start store migratedAt) calls
    (∀ key : RegistryKey, key.Recordable → world.db.Listed key) ∧
      (∀ check, (world.step (.check check : RegistryCall interpreter)).db = world.db) ∧
      ∀ (write : RegistryWrite interpreter) key generation record,
        write.recording? = some (key, generation, record) →
          RecordingOutcome world.db key generation record (world.commit write) := by
  intro world
  have invariant : GenerationsInvariant interpreter world :=
    Transaction.run_invariant (fun _ call held => held.step call)
      (GenerationsInvariant.start interpreter store migratedAt) calls
  refine ⟨invariant.listed, fun check => ?_, fun write key generation record recording => ?_⟩
  · rw [RegistryWorld.step]
    split <;> rfl
  cases returned : write.body world.db with
  | error error =>
      rw [RegistryWorld.commit, Transaction.commit_of_error returned]
      exact .rejected error
  | ok outcome =>
      rw [RegistryWorld.commit, Transaction.commit_of_ok returned]
      have step := RegistryWrite.step_of_ok invariant.records.keyed returned
      exact .accepted _ (step.recorded recording)

end VoodooOne
