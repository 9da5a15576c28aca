import VoodooOne.Library.Transaction
import VoodooOne.Registry.SharedState

/-!
# Runs of the registry

Any clients call the registry.  A call that reads before its transaction does so in a step of its
own, so other calls may come between its reads and its transaction.
-/

namespace VoodooOne

open DurableControlPlaneRegistry

/-- What reads and checks outside a transaction are about. -/
inductive RegistryCheck where
  | server (descriptor : MCPServerDescriptor)
  | event (event : ControlPlaneEvent)
deriving DecidableEq

/-- The writing transaction of a call. -/
inductive RegistryWrite (interpreter : Interpreter) where
  | registerProject (context : RecordingContext) (project : ProjectDescriptor)
      (built : project.Built)
  | recordConnector (registry : DurableControlPlaneRegistry) (context : RecordingContext)
      (snapshot : ConnectorCapabilitySnapshot) (built : snapshot.Built interpreter)
  | recordServer (context : RecordingContext) (descriptor : MCPServerDescriptor)
      (built : descriptor.Built interpreter)
  | reconcile (now : String) (stamp : Stamp) (event : ControlPlaneEvent)
      (built : event.Built interpreter.sha256)
  | emergencyStop (now : String) (stamp : Stamp) (actorId : String) (active : Bool)
      (reason : String)

inductive RegistryCall (interpreter : Interpreter) where
  | check (check : RegistryCheck)
  | write (write : RegistryWrite interpreter)

def RegistryCheck.perform (interpreter : Interpreter) (db : Database) :
    RegistryCheck → Except Raised Unit
  | .server descriptor => checkConnector interpreter descriptor db
  | .event reported => checkProject interpreter reported db

namespace RegistryWrite

variable {interpreter : Interpreter}

/-- The check that comes before the transaction. -/
def needs : RegistryWrite interpreter → Option RegistryCheck
  | recordServer _ descriptor _ => some (.server descriptor)
  | reconcile _ _ event _ => some (.event event)
  | _ => none

/-- The key under which the transaction writes. -/
def key : RegistryWrite interpreter → Option RegistryKey
  | registerProject _ project _ => some (.project project.projectId)
  | recordConnector _ _ snapshot _ => some (.connector snapshot.connectorId)
  | recordServer _ descriptor _ => some (.mcp descriptor.serverId)
  | reconcile _ _ event _ => some (.sharedState event.project.projectId)
  | emergencyStop _ _ _ _ _ => none

def body : RegistryWrite interpreter → Database → Except Raised (Unit × Database)
  | registerProject context project _, db => do
      return ((), ← DurableControlPlaneRegistry.registerProject interpreter context project db)
  | recordConnector registry context snapshot _, db => do
      return ((), ← registry.recordConnectorSnapshot interpreter.sha256 context snapshot db)
  | recordServer context descriptor _, db => do
      return ((), ← recordMcpServer interpreter.sha256 context descriptor db)
  | reconcile now stamp event _, db => do
      let (_, db) ← appendAndReconcile interpreter now stamp event db
      return ((), db)
  | emergencyStop now stamp actorId active reason, db => do
      return ((), ← db.setEmergencyStop interpreter.sha256 now stamp actorId active reason)

end RegistryWrite

/-- The database, and the calls that have passed their checks. -/
structure RegistryWorld where
  db : Database
  checked : List RegistryCheck

namespace RegistryWorld

variable {interpreter : Interpreter}

/-- A database as its migrations leave it: no record and no audit event. -/
def start (store : Database) (migratedAt : String) : RegistryWorld where
  db := (store.setRuntimeFlags [⟨"emergency_stop", .word "false", "system",
    migratedAt⟩]).setAuditEvents []
  checked := []

/-- A call can start its transaction. -/
def Enabled (world : RegistryWorld) (write : RegistryWrite interpreter) : Prop :=
  ∀ check ∈ write.needs, check ∈ world.checked

instance (world : RegistryWorld) (write : RegistryWrite interpreter) :
    Decidable (world.Enabled write) :=
  inferInstanceAs (Decidable (∀ check ∈ write.needs, check ∈ world.checked))

/-- The transaction of an enabled call. -/
def commit (world : RegistryWorld) (write : RegistryWrite interpreter) :
    Except Raised Unit × Database := Transaction.commit write.body world.db

def step (world : RegistryWorld) : RegistryCall interpreter → RegistryWorld
  | .check check =>
      match check.perform interpreter world.db with
      | .ok () => ⟨world.db, world.checked ++ [check]⟩
      | .error _ => world
  | .write write =>
      if world.Enabled write then
        ⟨(world.commit write).2, write.needs.elim world.checked world.checked.erase⟩
      else world

end RegistryWorld

theorem Database.registryValue_upsertFlag (db : Database) (row : RuntimeFlagRow)
    (key : RegistryKey) : (db.upsertFlag row).registryValue key =
      if key.text = row.key then some row.value else db.registryValue key := by
  rw [registryValue, lookup_upsertFlag, registryValue]
  split <;> rfl

theorem Database.registryValue_written (db : Database) (key : RegistryKey) (value : FlagValue)
    (updatedBy updatedAt : String) :
    (db.upsertFlag ⟨key.text, value, updatedBy, updatedAt⟩).registryValue key = some value :=
  (db.registryValue_upsertFlag _ key).trans (if_pos rfl)

/-- The next database of a transaction that commits. -/
inductive RegistryStep {interpreter : Interpreter} (db : Database) :
    RegistryWrite interpreter → Database → Prop where
  | project (context : RecordingContext) (project : ProjectDescriptor) (built : project.Built)
      (entry : AuditEntry)
      (action : entry.action = "control_plane.registry.project.registered")
      (target : entry.targetType = "control_plane_project") :
      RegistryStep db (.registerProject context project built)
        ((db.upsertFlag ⟨(RegistryKey.project project.projectId).text, .record project.asDict,
          context.actorId, context.now⟩).setAuditEvents
            (db.auditEvents ++ [db.auditRow interpreter.sha256 context.stamp entry]))
  | connector (registry : DurableControlPlaneRegistry) (context : RecordingContext)
      (snapshot : ConnectorCapabilitySnapshot) (built : snapshot.Built interpreter)
      (known : registry.checkCapabilities snapshot.capabilityDefinitionIdentities = .ok ())
      (follows : db.Follows (.connector snapshot.connectorId) snapshot.generation)
      (fresh : (observationRow interpreter.sha256 context (connectorObservation snapshot) db).Fresh
        db) :
      RegistryStep db (.recordConnector registry context snapshot built)
        ((db.upsertFlag ⟨(RegistryKey.connector snapshot.connectorId).text, .record snapshot.toDict,
          context.actorId, context.now⟩).setAuditEvents
            (db.auditEvents ++ [observationRow interpreter.sha256 context
              (connectorObservation snapshot) db]))
  | server (context : RecordingContext) (descriptor : MCPServerDescriptor)
      (built : descriptor.Built interpreter)
      (follows : db.Follows (.mcp descriptor.serverId) descriptor.generation)
      (fresh : (observationRow interpreter.sha256 context (mcpObservation descriptor) db).Fresh
        db) :
      RegistryStep db (.recordServer context descriptor built)
        ((db.upsertFlag ⟨(RegistryKey.mcp descriptor.serverId).text, .record descriptor.toDict,
          context.actorId, context.now⟩).setAuditEvents
            (db.auditEvents ++ [observationRow interpreter.sha256 context
              (mcpObservation descriptor) db]))
  | logged (now : String) (stamp : Stamp) (event : ControlPlaneEvent)
      (built : event.Built interpreter.sha256)
      (current : SharedStatePointer)
      (found : currentPointer interpreter db event.project.projectId = .ok current)
      (applied : ControlPlaneReconciler.apply interpreter.sha256 current event = .ok current) :
      RegistryStep db (.reconcile now stamp event built)
        (db.setAuditEvents
          (db.auditEvents ++ [db.auditRow interpreter.sha256 stamp (eventEntry event)]))
  | reconciled (now : String) (stamp : Stamp) (event : ControlPlaneEvent)
      (built : event.Built interpreter.sha256)
      (current next : SharedStatePointer)
      (found : currentPointer interpreter db event.project.projectId = .ok current)
      (applied : ControlPlaneReconciler.apply interpreter.sha256 current event = .ok next)
      (changed : next ≠ current) :
      RegistryStep db (.reconcile now stamp event built)
        ((db.upsertFlag ⟨(RegistryKey.sharedState event.project.projectId).text,
          .record next.asDict, event.actorId, now⟩).setAuditEvents
            (db.auditEvents ++ [db.auditRow interpreter.sha256 stamp (eventEntry event)]))
  | emergencyStop (now : String) (stamp : Stamp) (actorId : String) (active : Bool)
      (reason : String) (value : FlagValue) (entry : AuditEntry)
      (system : entry.targetType = "system") :
      RegistryStep db (.emergencyStop now stamp actorId active reason)
        ((db.upsertFlag ⟨"emergency_stop", value, actorId, now⟩).setAuditEvents
          (db.auditEvents ++ [db.auditRow interpreter.sha256 stamp entry]))

namespace RegistryStep

variable {interpreter : Interpreter} {db next : Database} {write : RegistryWrite interpreter}

theorem keyed (step : RegistryStep db write next) (keyed : Table.Keyed (·.key) db.runtimeFlags) :
    Table.Keyed (·.key) next.runtimeFlags := by
  cases step with
  | logged => exact keyed
  | _ => exact Database.keyed_upsertFlag keyed _

theorem kept (step : RegistryStep db write next) {key : RegistryKey}
    (other : write.key ≠ some key) : next.registryValue key = db.registryValue key := by
  have apart {written : RegistryKey} (names : write.key = some written) :
      key.text ≠ written.text := by
    intro same
    rw [names, RegistryKey.text_inj.mp same] at other
    exact other rfl
  cases step with
  | logged => rfl
  | emergencyStop =>
      exact (db.registryValue_upsertFlag _ key).trans (if_neg key.text_ne_emergencyStop)
  | _ => exact (db.registryValue_upsertFlag _ key).trans (if_neg (apart rfl))

end RegistryStep

theorem conflicting_eq_ok {α : Type} {body : Except Raised α} {value : α} :
    conflicting body = .ok value ↔ body = .ok value := by
  cases body <;> simp [conflicting]

theorem Database.insertFlag_eq_ok {db next : Database} {row : RuntimeFlagRow}
    (inserted : db.insertFlag row = .ok next) : next = db.upsertFlag row := by
  simp only [insertFlag, bind_eq_ok, raiseIf_eq_ok, pure_eq_ok] at inserted
  obtain ⟨_, fresh, rfl⟩ := inserted
  have absent : Table.lookup (·.key) db.runtimeFlags row.key = none := by
    rw [Table.lookup_eq_none]
    exact fun other member same => fresh ⟨other, member, same⟩
  rw [upsertFlag, absent]

theorem storePointer_eq_ok {now : String} {event : ControlPlaneEvent} {pointer : SharedStatePointer}
    {db next : Database} (keyed : Table.Keyed (·.key) db.runtimeFlags)
    (stored : storePointer now event pointer db = .ok next) :
    next = db.upsertFlag ⟨(RegistryKey.sharedState event.project.projectId).text,
      .record pointer.asDict, event.actorId, now⟩ := by
  unfold storePointer at stored
  cases found : db.registryValue (.sharedState event.project.projectId) with
  | none =>
      simp only [found, catching_eq_ok] at stored
      exact Database.insertFlag_eq_ok stored
  | some raw =>
      have update := updateFlagCas_eq ⟨(RegistryKey.sharedState event.project.projectId).text,
        .record pointer.asDict, event.actorId, now⟩ keyed found
      simp only [found, update, bind_eq_ok, pure_eq_ok] at stored
      obtain ⟨_, -, rfl⟩ := stored
      rfl

/-- Each transaction that commits takes one of these steps. -/
theorem RegistryWrite.step_of_ok {interpreter : Interpreter} {db next : Database}
    (keyed : Table.Keyed (·.key) db.runtimeFlags) {write : RegistryWrite interpreter}
    (returned : write.body db = .ok ((), next)) : RegistryStep db write next := by
  cases write with
  | registerProject context project built =>
      simp only [body, DurableControlPlaneRegistry.registerProject, bind_eq_ok, pure_eq_ok,
        Prod.mk.injEq, true_and, catching_eq_ok] at returned
      obtain ⟨_, ⟨existing, -, registry, -, _, inserted, appended⟩, rfl⟩ := returned
      obtain rfl := Database.insertFlag_eq_ok inserted
      obtain ⟨rfl, -⟩ := Database.appendAudit_eq_ok appended
      exact .project context project built _ rfl rfl
  | recordConnector registry context snapshot built =>
      simp only [body, bind_eq_ok, pure_eq_ok, Prod.mk.injEq, true_and,
        recordConnectorSnapshot] at returned
      obtain ⟨_, ⟨_, known, recorded⟩, rfl⟩ := returned
      obtain ⟨follows, fresh, rfl⟩ := (recordGeneration_eq_ok keyed).mp recorded
      exact .connector registry context snapshot built known follows fresh
  | recordServer context descriptor built =>
      simp only [body, bind_eq_ok, pure_eq_ok, Prod.mk.injEq, true_and, recordMcpServer] at returned
      obtain ⟨_, recorded, rfl⟩ := returned
      obtain ⟨follows, fresh, rfl⟩ := (recordGeneration_eq_ok keyed).mp recorded
      exact .server context descriptor built follows fresh
  | reconcile now stamp event built =>
      simp only [body, bind_eq_ok, pure_eq_ok, Prod.mk.injEq, true_and, appendAndReconcile,
        conflicting_eq_ok] at returned
      obtain ⟨⟨pointer, _⟩, ⟨current, found, next, applied, logged, appended, settled⟩, rfl⟩ :=
        returned
      obtain ⟨rfl, -⟩ := Database.appendAudit_eq_ok appended
      by_cases same : next = current
      · subst same
        rw [if_pos rfl] at settled
        cases settled
        exact .logged now stamp event built _ found applied
      · rw [if_neg same] at settled
        simp only [bind_eq_ok, pure_eq_ok, Prod.mk.injEq] at settled
        obtain ⟨_, stored, rfl, rfl⟩ := settled
        obtain rfl := storePointer_eq_ok (by exact keyed) stored
        exact .reconciled now stamp event built current _ found applied same
  | emergencyStop now stamp actorId active reason =>
      simp only [body, bind_eq_ok, pure_eq_ok, Prod.mk.injEq, true_and,
        Database.setEmergencyStop] at returned
      obtain ⟨_, appended, rfl⟩ := returned
      obtain ⟨rfl, -⟩ := Database.appendAudit_eq_ok appended
      exact .emergencyStop now stamp actorId active reason _ _ rfl

inductive RegistryMove {interpreter : Interpreter} (world : RegistryWorld) :
    RegistryCall interpreter → RegistryWorld → Prop where
  | kept (call : RegistryCall interpreter) (checked : List RegistryCheck) :
      RegistryMove world call ⟨world.db, checked⟩
  | committed (write : RegistryWrite interpreter) (next : Database) (checked : List RegistryCheck)
      (enabled : world.Enabled write) (step : RegistryStep world.db write next) :
      RegistryMove world (.write write) ⟨next, checked⟩

theorem RegistryWorld.step_cases {interpreter : Interpreter} (world : RegistryWorld)
    (keyed : Table.Keyed (·.key) world.db.runtimeFlags) (call : RegistryCall interpreter) :
    RegistryMove world call (world.step call) := by
  cases call with
  | check check =>
      rw [step]
      split
      · exact .kept _ _
      · exact .kept _ _
  | write write =>
      rw [step]
      split
      · next enabled =>
        cases returned : write.body world.db with
        | error error =>
            rw [commit, Transaction.commit_of_error returned]
            exact .kept _ _
        | ok outcome =>
            rw [commit, Transaction.commit_of_ok returned]
            exact .committed write _ _ enabled (RegistryWrite.step_of_ok keyed returned)
      · exact .kept _ _

theorem RegistryWorld.registryValue_start (store : Database) (migratedAt : String)
    (key : RegistryKey) : (RegistryWorld.start store migratedAt).db.registryValue key = none := by
  have other := key.text_ne_emergencyStop.symm
  simp [Database.registryValue, RegistryWorld.start, Table.lookup, other]

/-- The current records are those of built snapshots and descriptors. -/
structure RecordsInvariant (interpreter : Interpreter) (db : Database) : Prop where
  keyed : Table.Keyed (·.key) db.runtimeFlags
  connectors : ∀ id value, db.registryValue (.connector id) = some value →
    ∃ snapshot : ConnectorCapabilitySnapshot, snapshot.Built interpreter ∧
      snapshot.connectorId = id ∧ value = .record snapshot.toDict
  servers : ∀ id value, db.registryValue (.mcp id) = some value →
    ∃ descriptor : MCPServerDescriptor, descriptor.Built interpreter ∧
      descriptor.serverId = id ∧ value = .record descriptor.toDict

namespace RecordsInvariant

variable {interpreter : Interpreter}

theorem start (store : Database) (migratedAt : String) :
    RecordsInvariant interpreter (RegistryWorld.start store migratedAt).db := by
  refine ⟨List.nodup_singleton _, fun id value stored => ?_, fun id value stored => ?_⟩
  · rw [RegistryWorld.registryValue_start] at stored
    cases stored
  · rw [RegistryWorld.registryValue_start] at stored
    cases stored

theorem step {db next : Database} (invariant : RecordsInvariant interpreter db)
    {write : RegistryWrite interpreter} (step : RegistryStep db write next) :
    RecordsInvariant interpreter next := by
  refine ⟨step.keyed invariant.keyed, fun id value stored => ?_, fun id value stored => ?_⟩
  · by_cases names : write.key = some (.connector id)
    · cases step with
      | connector registry context snapshot built =>
          cases names
          have written := db.registryValue_written (.connector snapshot.connectorId)
            (.record snapshot.toDict) context.actorId context.now
          exact ⟨snapshot, built, rfl, Option.some.inj (stored.symm.trans written)⟩
      | _ => cases names
    · rw [step.kept names] at stored
      exact invariant.connectors id value stored
  · by_cases names : write.key = some (.mcp id)
    · cases step with
      | server context descriptor built =>
          cases names
          have written := db.registryValue_written (.mcp descriptor.serverId)
            (.record descriptor.toDict) context.actorId context.now
          exact ⟨descriptor, built, rfl, Option.some.inj (stored.symm.trans written)⟩
      | _ => cases names
    · rw [step.kept names] at stored
      exact invariant.servers id value stored

end RecordsInvariant

end VoodooOne
