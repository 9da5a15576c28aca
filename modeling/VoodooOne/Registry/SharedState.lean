import VoodooOne.Authority.Permission
import VoodooOne.Registry.ControlPlane
import VoodooOne.Registry.Records

/-!
# Shared state of projects

A project is registered once.  An event of a registered project is applied to the stored pointer of
the project, logged, and the next pointer replaces the stored one, in one transaction.
-/

namespace VoodooOne

/-- The keys of the registry among the runtime flags. -/
inductive RegistryKey where
  | project (projectId : String)
  | connector (connectorId : String)
  | mcp (serverId : String)
  | sharedState (projectId : String)
deriving DecidableEq, Repr

namespace RegistryKey

/-- `PROJECT_KEY_PREFIX`, `CONNECTOR_KEY_PREFIX`, `MCP_KEY_PREFIX`, `SHARED_STATE_KEY_PREFIX`. -/
def heading : RegistryKey → String
  | project _ => "control_plane.project.v1:"
  | connector _ => "control_plane.connector.v1:"
  | mcp _ => "control_plane.mcp.v1:"
  | sharedState _ => "control_plane.shared_state.v1:"

def identifier : RegistryKey → String
  | project id | connector id | mcp id | sharedState id => id

def text (key : RegistryKey) : String := key.heading ++ key.identifier

theorem text_getElem? (key : RegistryKey) {index : ℕ} (inside : index < 21) :
    key.text.toList[index]? = key.heading.toList[index]? := by
  have long : 21 ≤ key.heading.toList.length := by
    cases key <;> simp only [heading] <;> decide
  rw [text, String.toList_append, List.getElem?_append_left (by omega)]

@[simp] theorem text_inj {left right : RegistryKey} : left.text = right.text ↔ left = right := by
  refine ⟨fun same => ?_, congrArg text⟩
  -- the headings differ after `control_plane.`
  have character : left.heading.toList[14]? = right.heading.toList[14]? := by
    rw [← text_getElem? left (by decide), same, text_getElem? right (by decide)]
  cases left <;> cases right <;> simp only [heading] at character
  all_goals first
    | exact congrArg _ ((String.append_right_inj _).mp same)
    | exact absurd character (by decide)

theorem text_ne_emergencyStop (key : RegistryKey) : key.text ≠ "emergency_stop" := by
  intro same
  have character := key.text_getElem? (by decide : 0 < 21)
  rw [same] at character
  cases key <;> simp only [heading] at character <;> exact absurd character (by decide)

end RegistryKey

def registryConflict (message : String) : Raised := ⟨.registryConflict, message⟩

def registryIntegrityError (message : String) : Raised := ⟨.registryIntegrityError, message⟩

namespace Database

/-- `control_plane_registry.select_key`. -/
def registryValue (db : Database) (key : RegistryKey) : Option FlagValue :=
  (Table.lookup (·.key) db.runtimeFlags key.text).map (·.value)

/-- `control_plane_registry.insert_key`. -/
def insertFlag (db : Database) (row : RuntimeFlagRow) : Except Raised Database := do
  raiseIf (∃ other ∈ db.runtimeFlags, other.key = row.key) integrityError
  return db.setRuntimeFlags (db.runtimeFlags ++ [row])

/-- `control_plane_registry.update_key_cas`: the next database and the number of changed rows. -/
def updateFlagCas (db : Database) (row : RuntimeFlagRow) (current : FlagValue) : Database × Nat :=
  let changed (other : RuntimeFlagRow) : Bool :=
    other.key = row.key ∧ other.value.text = current.text
  (db.setRuntimeFlags (db.runtimeFlags.map fun other => if changed other then row else other),
    db.runtimeFlags.countP changed)

end Database

/-- `_decode_object`.  The text of a record is canonical; the words of the emergency stop are no
objects. -/
def decodeObject (field : String) : FlagValue → Except Raised Json
  | .record (.obj fields) => .ok (.obj fields)
  | _ => .error (registryIntegrityError (field ++ " must decode to an object"))

theorem decodeObject_object (field : String) (fields : List (String × Json)) :
    decodeObject field (.record (.object fields)) = .ok (.object fields) := rfl

def FlagValue.generation? : FlagValue → Option Int
  | .record (.obj fields) => ((Json.obj fields).get "generation").asInt
  | _ => none

theorem FlagValue.generation?_eq_some (field : String) {value : FlagValue} {generation : Int} :
    value.generation? = some generation ↔ ∃ object, decodeObject field value = .ok object ∧
        (object.get "generation").asInt = some generation := by
  cases value with
  | word text => simp [generation?, decodeObject]
  | record value => cases value <;> simp [generation?, decodeObject]

theorem FlagValue.generation?_object {fields : List (String × Json)} {generation : Int}
    (distinct : (fields.map Prod.fst).Nodup)
    (member : ("generation", Json.int generation) ∈ fields) :
    (FlagValue.record (.object fields)).generation? = some generation := by
  have shown := Json.get_object_of_mem distinct member
  rw [Json.object] at shown ⊢
  rw [generation?, shown]
  rfl

/-- A generation may be recorded: the first is 1, and each one follows the stored one. -/
def Database.Follows (db : Database) (key : RegistryKey) (generation : Int) : Prop :=
  match db.registryValue key with
  | none => generation = 1
  | some value => ∃ current, value.generation? = some current ∧ 1 ≤ current ∧
      generation = current + 1

/-- `DurableControlPlaneRegistry`: the definition identities of its capability registry, when there
is one. -/
structure DurableControlPlaneRegistry where
  capabilityDefinitions : Option (List String)
deriving DecidableEq

structure RecordingContext where
  actorId : String
  /-- `utc_now()` before the transaction. -/
  now : String
  /-- Identifier and time of the audit event. -/
  stamp : Stamp
deriving DecidableEq

namespace DurableControlPlaneRegistry

/-- The comparison and the write of `_record_generation`. -/
def storeGeneration (context : RecordingContext) (key : RegistryKey) (generation : Int)
    (value : Json) (db : Database) : Except Raised Database :=
  let row : RuntimeFlagRow := ⟨key.text, .record value, context.actorId, context.now⟩
  match db.registryValue key with
  | none => do
      raiseIf (generation ≠ 1) (registryConflict "first registry generation must be 1")
      catching [.databaseIntegrityError] (registryConflict "registry generation race detected")
        (db.insertFlag row)
  | some rawCurrent => do
      let current ← decodeObject "registry generation" rawCurrent
      let currentGeneration ← orRaise
        (registryIntegrityError "stored registry generation is invalid")
        (current.get "generation").asInt
      raiseIf (currentGeneration < 1)
        (registryIntegrityError "stored registry generation is invalid")
      raiseIf (generation ≠ currentGeneration + 1)
        (registryConflict "registry generation must advance by exactly one")
      let (next, rowcount) := db.updateFlagCas row rawCurrent
      raiseIf (rowcount ≠ 1) (registryConflict "registry compare-and-swap failed")
      return next

/-- What the audit event of a recording is about. -/
structure Observation where
  (action targetType targetId : String)
  generation : Int
  digest : String
  record : Json

def Observation.entry (observation : Observation) (actorId : String) : AuditEntry where
  actorId
  action := observation.action
  targetType := observation.targetType
  targetId := observation.targetId
  payload := .object [("generation", .int observation.generation),
    ("record_digest", .str observation.digest), ("record", observation.record)]

def recordGeneration (sha256 : String → String) (context : RecordingContext) (key : RegistryKey)
    (observation : Observation) (db : Database) : Except Raised Database := do
  let db ← storeGeneration context key observation.generation observation.record db
  db.appendAudit sha256 context.stamp (observation.entry context.actorId)

theorem updateFlagCas_eq {db : Database} (row : RuntimeFlagRow) {current : FlagValue}
    (keyed : Table.Keyed (·.key) db.runtimeFlags)
    (stored : (Table.lookup (·.key) db.runtimeFlags row.key).map (·.value) = some current) :
    db.updateFlagCas row current = (db.upsertFlag row, 1) := by
  obtain ⟨old, found, rfl⟩ := Option.map_eq_some_iff.mp stored
  obtain ⟨member, oldKey⟩ := Table.mem_of_lookup found
  have changed (other : RuntimeFlagRow) (there : other ∈ db.runtimeFlags) :
      decide (other.key = row.key ∧ other.value.text = old.value.text) = true ↔
        other.key = row.key := by
    rw [decide_eq_true_iff]
    refine ⟨And.left, fun same => ⟨same, ?_⟩⟩
    rw [keyed.unique there member (same.trans oldKey.symm)]
  have count : db.runtimeFlags.countP (fun other =>
      decide (other.key = row.key ∧ other.value.text = old.value.text)) = 1 := by
    apply keyed.countP_eq_one member
    intro other there
    rw [changed other there, oldKey]
  have rows : (db.runtimeFlags.map fun other =>
      if decide (other.key = row.key ∧ other.value.text = old.value.text) = true then row
      else other) = Table.replace (·.key) db.runtimeFlags row := by
    apply List.map_congr_left
    intro other there
    simp only [changed other there]
  rw [Database.upsertFlag, found]
  exact Prod.ext (congrArg db.setRuntimeFlags rows) count

theorem storeGeneration_eq_ok {context : RecordingContext} {key : RegistryKey} {generation : Int}
    {value : Json} {db next : Database} (keyed : Table.Keyed (·.key) db.runtimeFlags) :
    storeGeneration context key generation value db = .ok next ↔ db.Follows key generation ∧
      next = db.upsertFlag ⟨key.text, .record value, context.actorId, context.now⟩ := by
  unfold storeGeneration Database.Follows
  cases stored : db.registryValue key with
  | none =>
      have absent := Option.map_eq_none_iff.mp stored
      have fresh : ¬∃ other ∈ db.runtimeFlags, other.key = key.text := by
        rintro ⟨other, member, same⟩
        exact Table.lookup_eq_none.mp absent other member same
      simp only [bind_eq_ok, raiseIf_eq_ok, not_not, catching_eq_ok, Database.insertFlag,
        pure_eq_ok, Database.upsertFlag, absent]
      constructor
      · rintro ⟨_, first, _, -, rfl⟩
        exact ⟨first, rfl⟩
      · rintro ⟨first, rfl⟩
        exact ⟨(), first, (), fresh, rfl⟩
  | some raw =>
      have update := updateFlagCas_eq ⟨key.text, .record value, context.actorId, context.now⟩ keyed
        stored
      simp only [update]
      simp only [bind_eq_ok, orRaise_eq_ok, raiseIf_eq_ok, not_not, not_lt, pure_eq_ok,
        FlagValue.generation?_eq_some "registry generation"]
      constructor
      · rintro ⟨object, decoded, current, shown, _, positive, _, follows, _, -, rfl⟩
        exact ⟨⟨current, ⟨object, decoded, shown⟩, positive, follows⟩, rfl⟩
      · rintro ⟨⟨current, ⟨object, decoded, shown⟩, positive, follows⟩, rfl⟩
        exact ⟨object, decoded, current, shown, (), positive, (), follows, (), trivial, rfl⟩

def observationRow (sha256 : String → String) (context : RecordingContext)
    (observation : Observation) (db : Database) : AuditEventRow :=
  db.auditRow sha256 context.stamp (observation.entry context.actorId)

theorem recordGeneration_eq_ok {sha256 : String → String} {context : RecordingContext}
    {key : RegistryKey} {observation : Observation} {db next : Database}
    (keyed : Table.Keyed (·.key) db.runtimeFlags) :
    recordGeneration sha256 context key observation db = .ok next ↔
      db.Follows key observation.generation ∧
        (observationRow sha256 context observation db).Fresh db ∧
        next = (db.upsertFlag ⟨key.text, .record observation.record, context.actorId,
          context.now⟩).setAuditEvents
            (db.auditEvents ++ [observationRow sha256 context observation db]) := by
  simp only [recordGeneration, bind_eq_ok, storeGeneration_eq_ok keyed, Database.appendAudit,
    raiseIf_eq_ok, not_not, pure_eq_ok]
  constructor
  · rintro ⟨_, ⟨follows, rfl⟩, _, fresh, rfl⟩
    exact ⟨follows, fresh, rfl⟩
  · rintro ⟨follows, fresh, rfl⟩
    exact ⟨_, ⟨follows, rfl⟩, (), fresh, rfl⟩

/-- The check of the capability references of a snapshot. -/
def checkCapabilities (registry : DurableControlPlaneRegistry) (identities : List String) :
    Except Raised Unit := do
  raiseIf (identities ≠ [] ∧ registry.capabilityDefinitions = none)
    (registryIntegrityError "capability registry is required for executable capability references")
  raiseIf (∃ identity ∈ identities, identity ∉ registry.capabilityDefinitions.getD [])
    (registryIntegrityError "connector snapshot references an unknown capability definition")

def connectorObservation (snapshot : ConnectorCapabilitySnapshot) : Observation where
  action := "control_plane.registry.connector.observed"
  targetType := "control_plane_connector"
  targetId := snapshot.connectorId
  generation := snapshot.generation
  digest := snapshot.snapshotDigest
  record := snapshot.toDict

def recordConnectorSnapshot (registry : DurableControlPlaneRegistry) (sha256 : String → String)
    (context : RecordingContext) (snapshot : ConnectorCapabilitySnapshot) (db : Database) :
    Except Raised Database := do
  registry.checkCapabilities snapshot.capabilityDefinitionIdentities
  recordGeneration sha256 context (.connector snapshot.connectorId) (connectorObservation snapshot)
    db

def connectorSnapshot (interpreter : Interpreter) (db : Database) (connectorId : String) :
    Except Raised ConnectorCapabilitySnapshot := do
  let raw ← orRaise ⟨.lookupError, "registry entry not found"⟩
    (db.registryValue (.connector connectorId))
  let value ← decodeObject "connector snapshot" raw
  catching [.valueError] (registryIntegrityError "stored connector snapshot is invalid")
    (ConnectorCapabilitySnapshot.fromDict interpreter value)

def mcpServer (interpreter : Interpreter) (db : Database) (serverId : String) :
    Except Raised MCPServerDescriptor := do
  let raw ← orRaise ⟨.lookupError, "registry entry not found"⟩ (db.registryValue (.mcp serverId))
  let value ← decodeObject "MCP descriptor" raw
  catching [.valueError] (registryIntegrityError "stored MCP descriptor is invalid")
    (MCPServerDescriptor.fromDict interpreter value)

/-- What `record_mcp_server` reads and checks before its transaction. -/
def checkConnector (interpreter : Interpreter) (descriptor : MCPServerDescriptor) (db : Database) :
    Except Raised Unit := do
  let connector ← connectorSnapshot interpreter db descriptor.connectorId
  raiseIf (connector.verificationStatus = .revoked ∧ descriptor.available = true)
    (registryIntegrityError "available MCP server cannot bind to revoked connector")

def mcpObservation (descriptor : MCPServerDescriptor) : Observation where
  action := "control_plane.registry.mcp.observed"
  targetType := "control_plane_mcp_server"
  targetId := descriptor.serverId
  generation := descriptor.generation
  digest := descriptor.descriptorDigest
  record := descriptor.toDict

/-- The transaction of `record_mcp_server`, after its check. -/
def recordMcpServer (sha256 : String → String) (context : RecordingContext)
    (descriptor : MCPServerDescriptor) (db : Database) : Except Raised Database :=
  recordGeneration sha256 context (.mcp descriptor.serverId) (mcpObservation descriptor) db

end DurableControlPlaneRegistry

/-- An optional text read back: `str` of a field that is not null. -/
def Interpreter.strOption (interpreter : Interpreter) (value : Json) (key : String) :
    Option String :=
  match value.get key with
  | .null => none
  | found => some (interpreter.str found)

/-- `_project_from_dict`. -/
def ProjectDescriptor.fromDict (interpreter : Interpreter) (value : Json) :
    Except Raised ProjectDescriptor := do
  raiseIf (value.get "schema" ≠ .str "voodoo.project-descriptor.v1")
    (registryIntegrityError "stored project schema is invalid")
  let aliases ← orRaise (registryIntegrityError "stored project aliases are invalid")
    (value.get "aliases").texts?
  catching [.valueError] (registryIntegrityError "stored project descriptor is invalid")
    (construct (interpreter.strField value "project_id")
      (interpreter.strField value "canonical_repository")
      (interpreter.strField value "canonical_ref") aliases)

/-- `_shared_state_from_dict`. -/
def SharedStatePointer.fromDict (interpreter : Interpreter) (value : Json) :
    Except Raised SharedStatePointer := do
  raiseIf (value.get "schema" ≠ .str "voodoo.shared-state-pointer.v1")
    (registryIntegrityError "stored shared-state schema is invalid")
  raiseIf ((value.get "state").keys = none)
    (registryIntegrityError "stored shared-state value is invalid")
  catching [.valueError] (registryIntegrityError "stored shared-state pointer is invalid")
    (construct interpreter.sha256 (interpreter.strField value "project_id")
      ((value.get "revision").asInt.getD (-1)) (interpreter.strField value "state_hash")
      (value.get "state") (interpreter.strOption value "last_event_id")
      (interpreter.strOption value "last_correlation_id")
        (interpreter.strOption value "updated_at"))

/-- `LIKE`, which ignores the case of ASCII letters. -/
def like : List Char → List Char → Bool
  | [], text => text.isEmpty
  | '%' :: pattern, text => text.tails.any (like pattern)
  | '_' :: pattern, _ :: text => like pattern text
  | wanted :: pattern, found :: text => wanted.toLower = found.toLower && like pattern text
  | _ :: _, [] => false

/-- `control_plane_registry.list_prefix`, for the projects. -/
def Database.projectRows (db : Database) : List RuntimeFlagRow :=
  (db.runtimeFlags.filter fun row =>
    like "control_plane.project.v1:%".toList row.key.toList).insertionSort
      fun left right => left.key ≤ right.key

namespace DurableControlPlaneRegistry

def storedProjects (interpreter : Interpreter) :
    List RuntimeFlagRow → Except Raised (List ProjectDescriptor)
  | [] => .ok []
  | row :: rows => do
      let value ← decodeObject "project registry record" row.value
      let project ← ProjectDescriptor.fromDict interpreter value
      let projects ← storedProjects interpreter rows
      return project :: projects

def projectRegistry (interpreter : Interpreter) (db : Database) :
    Except Raised ImmutableProjectRegistry := do
  let projects ← storedProjects interpreter db.projectRows
  ImmutableProjectRegistry.construct interpreter projects

/-- An exception of one class raised again as a registry conflict with its message. -/
def conflicting {α : Type} : Except Raised α → Except Raised α
  | .ok value => .ok value
  | .error error =>
      .error (if error.cls.isA .valueError then registryConflict error.message else error)

def registerProject (interpreter : Interpreter) (context : RecordingContext)
    (project : ProjectDescriptor) (db : Database) : Except Raised Database := do
  let existing ← storedProjects interpreter db.projectRows
  let _ ← conflicting (ImmutableProjectRegistry.construct interpreter (existing ++ [project]))
  let db ← catching [.databaseIntegrityError] (registryConflict "project is already registered")
    (db.insertFlag ⟨(RegistryKey.project project.projectId).text, .record project.asDict,
      context.actorId, context.now⟩)
  db.appendAudit interpreter.sha256 context.stamp
    { actorId := context.actorId
      action := "control_plane.registry.project.registered"
      targetType := "control_plane_project"
      targetId := project.projectId
      payload := .object [("project", project.asDict),
        ("record_digest", .str (digestOf interpreter.sha256 project.asDict))] }

/-- `ControlPlaneEventLog.append`. -/
def eventEntry (event : ControlPlaneEvent) : AuditEntry where
  actorId := event.actorId
  action := "control_plane.event:" ++ event.eventType
  targetType := "control_plane_project"
  targetId := event.project.projectId
  payload := event.asDict

/-- What `append_and_reconcile` reads and checks before its transaction. -/
def checkProject (interpreter : Interpreter) (event : ControlPlaneEvent) (db : Database) :
    Except Raised Unit := do
  let projects ← projectRegistry interpreter db
  let registered ← projects.resolve event.project.projectId
  raiseIf (registered.asDict ≠ event.project.asDict)
    (registryIntegrityError "event project does not match registered project descriptor")

def currentPointer (interpreter : Interpreter) (db : Database) (projectId : String) :
    Except Raised SharedStatePointer :=
  match db.registryValue (.sharedState projectId) with
  | none => SharedStatePointer.genesis interpreter.sha256 projectId
  | some raw => do
      let value ← decodeObject "shared-state pointer" raw
      SharedStatePointer.fromDict interpreter value

def storePointer (now : String) (event : ControlPlaneEvent) (pointer : SharedStatePointer)
    (db : Database) : Except Raised Database :=
  let key := RegistryKey.sharedState event.project.projectId
  let row : RuntimeFlagRow := ⟨key.text, .record pointer.asDict, event.actorId, now⟩
  match db.registryValue key with
  | none =>
      catching [.databaseIntegrityError] (registryConflict "shared-state genesis race detected")
        (db.insertFlag row)
  | some rawCurrent => do
      let (next, rowcount) := db.updateFlagCas row rawCurrent
      raiseIf (rowcount ≠ 1) (registryConflict "shared-state compare-and-swap failed")
      return next

/-- The transaction of `append_and_reconcile`, after its check.  The database statements between
reading and writing the pointer do not touch the flags. -/
def appendAndReconcile (interpreter : Interpreter) (now : String) (stamp : Stamp)
    (event : ControlPlaneEvent) (db : Database) :
      Except Raised (SharedStatePointer × Database) := do
  let current ← currentPointer interpreter db event.project.projectId
  let nextPointer ← conflicting (ControlPlaneReconciler.apply interpreter.sha256 current event)
  let db ← db.appendAudit interpreter.sha256 stamp (eventEntry event)
  if nextPointer = current then return (current, db)
  else do
    let db ← storePointer now event nextPointer db
    return (nextPointer, db)

end DurableControlPlaneRegistry

end VoodooOne
