import VoodooOne.Registry.Generations

/-!
# Availability of MCP servers

An MCP server that is recorded as available must not be bound to a revoked connector.  Recording a
server checks its connector before the transaction, and revoking a connector looks at no server, so
the registry keeps this exactly as long as neither write meets the other.
-/

namespace VoodooOne

open DurableControlPlaneRegistry

section Reading

variable {interpreter : Interpreter} {db other : Database}

theorem connectorSnapshot_of_stored {snapshot : ConnectorCapabilitySnapshot}
    (built : snapshot.Built interpreter) {id : String}
    (stored : db.registryValue (.connector id) = some (.record snapshot.toDict)) :
    connectorSnapshot interpreter db id = .ok snapshot := by
  have read := built.fromDict_toDict
  rw [ConnectorCapabilitySnapshot.toDict] at stored read
  rw [connectorSnapshot, stored, orRaise, ok_bind, decodeObject_object, ok_bind, read]
  rfl

theorem mcpServer_of_stored {descriptor : MCPServerDescriptor}
    (built : descriptor.Built interpreter) {id : String}
    (stored : db.registryValue (.mcp id) = some (.record descriptor.toDict)) :
    mcpServer interpreter db id = .ok descriptor := by
  have read := built.fromDict_toDict
  rw [MCPServerDescriptor.toDict] at stored read
  rw [mcpServer, stored, orRaise, ok_bind, decodeObject_object, ok_bind, read]
  rfl

theorem connectorSnapshot_congr {id : String}
    (same : other.registryValue (.connector id) = db.registryValue (.connector id)) :
    connectorSnapshot interpreter other id = connectorSnapshot interpreter db id := by
  rw [connectorSnapshot, same, connectorSnapshot]

theorem mcpServer_congr {id : String}
    (same : other.registryValue (.mcp id) = db.registryValue (.mcp id)) :
    mcpServer interpreter other id = mcpServer interpreter db id := by
  rw [mcpServer, same, mcpServer]

end Reading

/-- No available MCP server is bound to a revoked connector. -/
def Database.NoRevokedBinding (interpreter : Interpreter) (db : Database) : Prop :=
  ∀ connectorId connector, connectorSnapshot interpreter db connectorId = .ok connector →
    connector.verificationStatus = .revoked →
      ∀ serverId server, mcpServer interpreter db serverId = .ok server →
        server.connectorId = connectorId → server.available = false

namespace RegistryWrite

variable {interpreter : Interpreter}

/-- The checks that a recording makes inside its transaction. -/
def Admitted (db : Database) : RegistryWrite interpreter → Prop
  | recordConnector registry context snapshot _ =>
      registry.checkCapabilities snapshot.capabilityDefinitionIdentities = .ok () ∧
        db.Follows (.connector snapshot.connectorId) snapshot.generation ∧
          (observationRow interpreter.sha256 context (connectorObservation snapshot) db).Fresh db
  | recordServer context descriptor _ =>
      db.Follows (.mcp descriptor.serverId) descriptor.generation ∧
        (observationRow interpreter.sha256 context (mcpObservation descriptor) db).Fresh db
  | _ => True

/-- A revoked connector has no available server bound to it, and the connector of an available
server is not revoked. -/
def Harmless (db : Database) : RegistryWrite interpreter → Prop
  | recordConnector _ _ snapshot _ => snapshot.verificationStatus = .revoked →
      ∀ serverId server, mcpServer interpreter db serverId = .ok server →
        server.connectorId = snapshot.connectorId → server.available = false
  | recordServer _ descriptor _ => descriptor.available = true →
      ∀ connector, connectorSnapshot interpreter db descriptor.connectorId = .ok connector →
        connector.verificationStatus ≠ .revoked
  | _ => True

/-- Each recording whose checks pass is harmless. -/
def Clear (world : RegistryWorld) (write : RegistryWrite interpreter) : Prop :=
  world.Enabled write → write.Admitted world.db → write.Harmless world.db

end RegistryWrite

namespace RegistryWorld

variable {interpreter : Interpreter}

def Clear (world : RegistryWorld) : RegistryCall interpreter → Prop
  | .check _ => True
  | .write write => write.Clear world

/-- The property after one step. -/
def Bound (world : RegistryWorld) (call : RegistryCall interpreter) : Prop :=
  (world.step call).db.NoRevokedBinding interpreter

end RegistryWorld

namespace RegistryStep

variable {interpreter : Interpreter} {db next : Database} {write : RegistryWrite interpreter}

theorem admitted (step : RegistryStep db write next) : write.Admitted db := by
  cases step with
  | connector registry context snapshot built known follows fresh => exact ⟨known, follows, fresh⟩
  | server context descriptor built follows fresh => exact ⟨follows, fresh⟩
  | _ => trivial

/-- A transaction that records neither connector nor server keeps what is read of them. -/
theorem noRevokedBinding_kept (step : RegistryStep db write next)
    (connectors : ∀ id, write.key ≠ some (.connector id))
    (servers : ∀ id, write.key ≠ some (.mcp id))
    (held : db.NoRevokedBinding interpreter) : next.NoRevokedBinding interpreter := by
  intro connectorId connector foundConnector revoked serverId server foundServer
  rw [connectorSnapshot_congr (step.kept (connectors connectorId))] at foundConnector
  rw [mcpServer_congr (step.kept (servers serverId))] at foundServer
  exact held connectorId connector foundConnector revoked serverId server foundServer

/-- Recording a connector keeps the property exactly when it is harmless. -/
theorem noRevokedBinding_connector {registry : DurableControlPlaneRegistry}
    {context : RecordingContext} {snapshot : ConnectorCapabilitySnapshot}
    {built : snapshot.Built interpreter}
    (step : RegistryStep db (.recordConnector registry context snapshot built) next)
    (held : db.NoRevokedBinding interpreter) : next.NoRevokedBinding interpreter ↔
      (RegistryWrite.recordConnector registry context snapshot built).Harmless db := by
  have recorded : connectorSnapshot interpreter next snapshot.connectorId = .ok snapshot :=
    connectorSnapshot_of_stored built (step.recorded rfl).stored
  have servers (id : String) : mcpServer interpreter next id = mcpServer interpreter db id :=
    mcpServer_congr ((step.recorded rfl).others _ nofun)
  constructor
  · intro after revoked serverId server found bound
    rw [← servers] at found
    exact after _ snapshot recorded revoked serverId server found bound
  · intro harmless connectorId connector foundConnector revoked serverId server foundServer bound
    rw [servers] at foundServer
    by_cases same : connectorId = snapshot.connectorId
    · subst same
      rw [recorded] at foundConnector
      cases foundConnector
      exact harmless revoked serverId server foundServer bound
    · have kept : connectorSnapshot interpreter next connectorId =
          connectorSnapshot interpreter db connectorId :=
        connectorSnapshot_congr ((step.recorded rfl).others _ (by simpa using same))
      rw [kept] at foundConnector
      exact held connectorId connector foundConnector revoked serverId server foundServer bound

/-- Recording a server keeps the property exactly when it is harmless. -/
theorem noRevokedBinding_server {context : RecordingContext} {descriptor : MCPServerDescriptor}
    {built : descriptor.Built interpreter}
    (step : RegistryStep db (.recordServer context descriptor built) next)
    (held : db.NoRevokedBinding interpreter) : next.NoRevokedBinding interpreter ↔
      (RegistryWrite.recordServer context descriptor built).Harmless db := by
  have recorded : mcpServer interpreter next descriptor.serverId = .ok descriptor :=
    mcpServer_of_stored built (step.recorded rfl).stored
  have connectors (id : String) :
      connectorSnapshot interpreter next id = connectorSnapshot interpreter db id :=
    connectorSnapshot_congr ((step.recorded rfl).others _ nofun)
  constructor
  · intro after available connector found revoked
    rw [← connectors] at found
    have unavailable := after _ connector found revoked _ descriptor recorded rfl
    rw [available] at unavailable
    cases unavailable
  · intro harmless connectorId connector foundConnector revoked serverId server foundServer bound
    rw [connectors] at foundConnector
    by_cases same : serverId = descriptor.serverId
    · subst same
      rw [recorded] at foundServer
      cases foundServer
      subst bound
      cases available : descriptor.available with
      | false => rfl
      | true => exact absurd revoked (harmless available connector foundConnector)
    · have kept : mcpServer interpreter next serverId = mcpServer interpreter db serverId :=
        mcpServer_congr ((step.recorded rfl).others _ (by simpa using same))
      rw [kept] at foundServer
      exact held connectorId connector foundConnector revoked serverId server foundServer bound

/-- The property holds after a transaction that commits exactly when its recording is harmless. -/
theorem noRevokedBinding_iff (step : RegistryStep db write next)
    (held : db.NoRevokedBinding interpreter) :
    next.NoRevokedBinding interpreter ↔ write.Harmless db := by
  cases write with
  | recordConnector registry context snapshot built => exact step.noRevokedBinding_connector held
  | recordServer context descriptor built => exact step.noRevokedBinding_server held
  | _ => exact iff_of_true (step.noRevokedBinding_kept nofun nofun held) trivial

end RegistryStep

theorem RegistryWrite.harmless_of_error {interpreter : Interpreter} {db : Database}
    {write : RegistryWrite interpreter} (keyed : Table.Keyed (·.key) db.runtimeFlags)
    (admitted : write.Admitted db) {error : Raised} (raised : write.body db = .error error) :
    write.Harmless db := by
  cases write with
  | recordConnector registry context snapshot built =>
      obtain ⟨known, follows, fresh⟩ := admitted
      have recorded := (recordGeneration_eq_ok keyed).mpr ⟨follows, fresh, rfl⟩
      rw [body, recordConnectorSnapshot, known, ok_bind, recorded] at raised
      cases raised
  | recordServer context descriptor built =>
      obtain ⟨follows, fresh⟩ := admitted
      have recorded := (recordGeneration_eq_ok keyed).mpr ⟨follows, fresh, rfl⟩
      rw [body, recordMcpServer, recorded] at raised
      cases raised
  | _ => trivial

/-- What holds along a run under the condition. -/
structure AvailabilityInvariant (interpreter : Interpreter) (world : RegistryWorld) : Prop where
  records : RecordsInvariant interpreter world.db
  held : world.db.NoRevokedBinding interpreter

namespace AvailabilityInvariant

variable {interpreter : Interpreter} {world : RegistryWorld}

theorem start (store : Database) (migratedAt : String) :
    AvailabilityInvariant interpreter (RegistryWorld.start store migratedAt) where
  records := RecordsInvariant.start store migratedAt
  held connectorId connector found := by
    have other := (RegistryKey.connector connectorId).text_ne_emergencyStop.symm
    have absent : (RegistryWorld.start store migratedAt).db.registryValue (.connector connectorId) =
        none := by
      simp [Database.registryValue, RegistryWorld.start, Table.lookup, other]
    rw [connectorSnapshot, absent] at found
    cases found

theorem bound_iff (invariant : AvailabilityInvariant interpreter world)
    (call : RegistryCall interpreter) : world.Bound call ↔ world.Clear call := by
  cases call with
  | check check =>
      have same : (world.step (.check check : RegistryCall interpreter)).db = world.db := by
        rw [RegistryWorld.step]
        split <;> rfl
      rw [RegistryWorld.Bound, same]
      exact iff_of_true invariant.held trivial
  | write write =>
      rw [RegistryWorld.Bound, RegistryWorld.step]
      by_cases enabled : world.Enabled write
      · rw [if_pos enabled]
        cases returned : write.body world.db with
        | error error =>
            rw [RegistryWorld.commit, Transaction.commit_of_error returned]
            exact iff_of_true invariant.held fun _ admitted =>
              write.harmless_of_error invariant.records.keyed admitted returned
        | ok outcome =>
            rw [RegistryWorld.commit, Transaction.commit_of_ok returned]
            have step := RegistryWrite.step_of_ok invariant.records.keyed returned
            rw [step.noRevokedBinding_iff invariant.held]
            exact ⟨fun harmless _ _ => harmless, fun clear => clear enabled step.admitted⟩
      · rw [if_neg enabled]
        exact iff_of_true invariant.held fun started => absurd started enabled

theorem step (invariant : AvailabilityInvariant interpreter world)
    (call : RegistryCall interpreter) (clear : world.Clear call) :
    AvailabilityInvariant interpreter (world.step call) := by
  refine ⟨?_, (invariant.bound_iff call).mpr clear⟩
  have move := world.step_cases invariant.records.keyed call
  generalize world.step call = next at move
  cases move with
  | kept call checked => exact invariant.records
  | committed write next checked enabled step => exact invariant.records.step step

end AvailabilityInvariant

/-- A digest with a given first character. -/
def sampleDigits (first : Char) : String := String.ofList (first :: List.replicate 63 '0')

/-- A digest function that looks at the first character. -/
def sampleSha256 (text : String) : String :=
  match text.toList.head? with
  | some 'G' => sampleDigits '1'
  | some '1' => sampleDigits '2'
  | some '2' => sampleDigits '3'
  | _ => sampleDigits '0'

def sampleInterpreter : Interpreter := ⟨sampleSha256, id, fun _ => "[]"⟩

def sampleConnector (generation : Int) (available : Bool) (status : VerificationStatus) :
    ConnectorCapabilitySnapshot :=
  ⟨"c", "p", generation, "t", available, [], [], true, status, "s", sampleDigits '0'⟩

def sampleServer : MCPServerDescriptor :=
  ⟨"m", "c", 1, .stdio, "e", "v", [], true, .verified, "s", "t", sampleDigits '0'⟩

theorem sampleSha256_object (fields : List (String × Json)) :
    digestOf sampleSha256 (.object fields) = sampleDigits '0' := by
  rw [digestOf, sampleSha256, canonicalJson, Json.object, render, String.toList_ofList]
  rfl

theorem sampleDigits_digest (field : String) : checkDigest field (sampleDigits '0') = .ok () := by
  rw [checkDigest, raiseIf_eq_ok, not_not]
  refine ⟨by decide, fun character member => ?_⟩
  have zero : character = '0' := by
    rw [sampleDigits, String.toList_ofList, ← List.replicate_succ] at member
    exact List.eq_of_mem_replicate member
  rw [zero]
  decide

theorem checkText_of_valid {field value : String} (valid : ValidText value) :
    checkText field value = .ok () := by
  rw [checkText, requireText, if_pos valid]
  rfl

theorem sampleConnector_built {generation : Int} (positive : ¬generation < 1) {available : Bool}
    {status : VerificationStatus} (consistent : ¬(status = .revoked ∧ available = true)) :
    (sampleConnector generation available status).Built sampleInterpreter := by
  have matched : sampleDigits '0' = digestOf sampleInterpreter.sha256
      (sampleConnector generation available status).claimsWithoutDigest :=
    (sampleSha256_object _).symm
  simp only [ConnectorCapabilitySnapshot.Built, ConnectorCapabilitySnapshot.construct, bind_eq_ok,
    raiseIf_eq_ok, not_not, canonicalTextTuple_eq_ok]
  exact ⟨(), checkText_of_valid (by decide : ValidText "c"), (),
    checkText_of_valid (by decide : ValidText "p"), (),
    checkText_of_valid (by decide : ValidText "t"), (),
    checkText_of_valid (by decide : ValidText "s"), (), positive, [],
    ⟨rfl, List.forall_mem_nil _⟩, (), rfl, [], ⟨rfl, List.forall_mem_nil _⟩, status,
    status.ofValue_text, (), consistent, (), sampleDigits_digest _, (), matched, rfl⟩

theorem sampleServer_built : sampleServer.Built sampleInterpreter := by
  have matched : sampleDigits '0' =
      digestOf sampleInterpreter.sha256 sampleServer.claimsWithoutDigest :=
    (sampleSha256_object _).symm
  simp only [MCPServerDescriptor.Built, MCPServerDescriptor.construct, bind_eq_ok,
    raiseIf_eq_ok, orRaise_eq_ok, not_not, canonicalTextTuple_eq_ok]
  exact ⟨(), checkText_of_valid (by decide), (),
    checkText_of_valid (by decide), (), checkText_of_valid (by decide),
    (), checkText_of_valid (by decide), (), checkText_of_valid (by decide),
    (), checkText_of_valid (by decide), (), by decide, .stdio, rfl, [],
    ⟨rfl, List.forall_mem_nil _⟩,
    .verified, VerificationStatus.ofValue_text _, (), by decide, (), sampleDigits_digest _, (),
    matched, rfl⟩

/-- Identifiers and hashes of the audit events. -/
def sampleLog (db : Database) : List (String × String) :=
  db.auditEvents.map fun row => (row.id, row.eventHash)

def sampleRecorded (db : Database) (id : String) (key : RegistryKey) (observation : Observation) :
    Database :=
  (db.upsertFlag ⟨key.text, .record observation.record, "u", "t"⟩).setAuditEvents (db.auditEvents ++
    [observationRow sampleSha256 ⟨"u", "t", ⟨id, "t"⟩⟩ observation db])

/-- The hash that the next audit event names. -/
def sampleHead (log : List (String × String)) : String := (log.getLast?.map Prod.snd).getD genesis

section Sample

variable (db : Database) (id : String) (observation : Observation)

theorem auditHead_eq_sampleHead : db.auditHead = sampleHead (sampleLog db) := by
  rw [sampleHead, sampleLog, List.getLast?_map, Option.map_map]
  rfl

theorem sampleHash_row (nonempty : sampleHead (sampleLog db) ≠ "") :
    (observationRow sampleSha256 ⟨"u", "t", ⟨id, "t"⟩⟩ observation db).eventHash =
      sampleSha256 (sampleHead (sampleLog db)) := by
  have first (later : String) : sampleSha256 (db.auditHead ++ "\n" ++ later) =
      sampleSha256 db.auditHead := by
    have characters : db.auditHead.toList ≠ [] := by
      rw [auditHead_eq_sampleHead]
      simpa using nonempty
    rw [sampleSha256, String.toList_append, String.toList_append, List.append_assoc,
      List.head?_append_of_ne_nil _ characters, sampleSha256]
  rw [← auditHead_eq_sampleHead]
  exact first _

theorem sampleLog_recorded (nonempty : sampleHead (sampleLog db) ≠ "") (key : RegistryKey) :
    sampleLog (sampleRecorded db id key observation) =
      sampleLog db ++ [(id, sampleSha256 (sampleHead (sampleLog db)))] := by
  have hash := sampleHash_row db id observation nonempty
  rw [sampleLog, sampleRecorded, Database.setAuditEvents_auditEvents, List.map_append,
    List.map_singleton, hash]
  rfl

theorem sampleRow_fresh (nonempty : sampleHead (sampleLog db) ≠ "") (new : ∀ entry ∈ sampleLog db,
      entry.1 ≠ id ∧ entry.2 ≠ sampleSha256 (sampleHead (sampleLog db))) :
    (observationRow sampleSha256 ⟨"u", "t", ⟨id, "t"⟩⟩ observation db).Fresh db := by
  intro other member
  have apart := new _ (List.mem_map_of_mem member)
  rw [sampleHash_row db id observation nonempty]
  exact apart

theorem registryValue_sampleRecorded (key other : RegistryKey) :
    (sampleRecorded db id key observation).registryValue other =
      if other = key then some (.record observation.record) else db.registryValue other := by
  have written := db.registryValue_upsertFlag ⟨key.text, .record observation.record, "u", "t"⟩ other
  simp only [RegistryKey.text_inj] at written
  exact written

structure SampleState (db : Database) (log : List (String × String)) : Prop where
  keyed : Table.Keyed (·.key) db.runtimeFlags
  isLog : sampleLog db = log
  nonempty : sampleHead log ≠ ""

variable {db}

theorem SampleState.record {log : List (String × String)} (state : SampleState db log)
    (key : RegistryKey) (follows : db.Follows key observation.generation)
    (new : ∀ entry ∈ log, entry.1 ≠ id ∧ entry.2 ≠ sampleSha256 (sampleHead log))
    (nonempty : sampleSha256 (sampleHead log) ≠ "") :
    ∃ next, recordGeneration sampleSha256 ⟨"u", "t", ⟨id, "t"⟩⟩ key observation db = .ok next ∧
      SampleState next (log ++ [(id, sampleSha256 (sampleHead log))]) ∧
        ∀ other, next.registryValue other =
          if other = key then some (.record observation.record) else db.registryValue other := by
  obtain ⟨keyed, rfl, head⟩ := state
  refine ⟨sampleRecorded db id key observation, ?_,
    ⟨Database.keyed_upsertFlag keyed _, sampleLog_recorded db id observation head key, ?_⟩,
    registryValue_sampleRecorded db id observation key⟩
  · exact (recordGeneration_eq_ok keyed).mpr
      ⟨follows, sampleRow_fresh db id observation head new, rfl⟩
  · rw [sampleHead, List.getLast?_concat]
    exact nonempty

end Sample

namespace RegistryWorld

variable {interpreter : Interpreter} {world : RegistryWorld} {context : RecordingContext}
  {next : Database}

theorem step_recordConnector {snapshot : ConnectorCapabilitySnapshot}
    {built : snapshot.Built interpreter} (free : snapshot.capabilityDefinitionIdentities = [])
    (recorded : recordGeneration interpreter.sha256 context (.connector snapshot.connectorId)
      (connectorObservation snapshot) world.db = .ok next) :
    world.step (.write (.recordConnector ⟨none⟩ context snapshot built)) =
      ⟨next, world.checked⟩ := by
  have enabled : world.Enabled (.recordConnector ⟨none⟩ context snapshot built) := by
    rintro check ⟨⟩
  have returned : (RegistryWrite.recordConnector ⟨none⟩ context snapshot built).body world.db =
      .ok ((), next) := by
    rw [RegistryWrite.body, recordConnectorSnapshot, recorded, free]
    rfl
  rw [step, if_pos enabled, commit, Transaction.commit_of_ok returned]
  rfl

theorem step_recordServer {descriptor : MCPServerDescriptor} {built : descriptor.Built interpreter}
    (checked : .server descriptor ∈ world.checked)
    (recorded : recordGeneration interpreter.sha256 context (.mcp descriptor.serverId)
      (mcpObservation descriptor) world.db = .ok next) :
    world.step (.write (.recordServer context descriptor built)) =
      ⟨next, world.checked.erase (.server descriptor)⟩ := by
  have enabled : world.Enabled (.recordServer context descriptor built) := by
    rintro check ⟨⟩
    exact checked
  have returned : (RegistryWrite.recordServer context descriptor built).body world.db =
      .ok ((), next) := by
    rw [RegistryWrite.body, recordMcpServer, recorded]
    rfl
  rw [step, if_pos enabled, commit, Transaction.commit_of_ok returned]
  rfl

end RegistryWorld

def recordVerified : RegistryCall sampleInterpreter :=
  .write (.recordConnector ⟨none⟩ ⟨"u", "t", ⟨"a1", "t"⟩⟩ (sampleConnector 1 true .verified)
    (sampleConnector_built (by decide) (by decide)))

def recordRevoked : RegistryCall sampleInterpreter :=
  .write (.recordConnector ⟨none⟩ ⟨"u", "t", ⟨"a2", "t"⟩⟩ (sampleConnector 2 false .revoked)
    (sampleConnector_built (by decide) (by decide)))

def recordAvailable : RegistryCall sampleInterpreter :=
  .write (.recordServer ⟨"u", "t", ⟨"a3", "t"⟩⟩ sampleServer sampleServer_built)

/-- A connector is recorded, the check of an available server passes, the connector is revoked, and
then the server is recorded. -/
def overtakenCheck : List (RegistryCall sampleInterpreter) :=
  [recordVerified, .check (.server sampleServer), recordRevoked, recordAvailable]

/-- The last call binds an available server to a connector that is revoked by then. -/
theorem registry_binds_revoked : ¬(Transaction.run RegistryWorld.step
    (RegistryWorld.start .empty "t") overtakenCheck).db.NoRevokedBinding sampleInterpreter := by
  have absent (key : RegistryKey) :
      (RegistryWorld.start .empty "t").db.registryValue key = none := by
    have other := key.text_ne_emergencyStop.symm
    simp [Database.registryValue, RegistryWorld.start, Table.lookup, other]
  have state : SampleState (RegistryWorld.start .empty "t").db [] :=
    ⟨List.nodup_singleton _, rfl, by decide⟩
  obtain ⟨first, recorded, state, firstValue⟩ := state.record "a1"
    (connectorObservation (sampleConnector 1 true .verified)) (.connector "c")
    (by rw [Database.Follows, absent]; rfl) (List.forall_mem_nil _) (by decide)
  have firstStep : (RegistryWorld.start .empty "t").step recordVerified = ⟨first, []⟩ :=
    RegistryWorld.step_recordConnector rfl recorded
  -- the connector is not revoked when the server is checked
  have passes : checkConnector sampleInterpreter sampleServer first = .ok () := by
    have connector := connectorSnapshot_of_stored
      (sampleConnector_built (by decide) (by decide)) (firstValue (.connector "c"))
    rw [checkConnector]
    exact (congrArg (· >>= _) connector).trans rfl
  have checkStep : (⟨first, []⟩ : RegistryWorld).step
      (.check (.server sampleServer) : RegistryCall sampleInterpreter) =
        ⟨first, [.server sampleServer]⟩ := by
    rw [RegistryWorld.step, RegistryCheck.perform, passes]
    rfl
  obtain ⟨second, recorded, state, secondValue⟩ := state.record "a2"
    (connectorObservation (sampleConnector 2 false .revoked)) (.connector "c")
    (by
      rw [Database.Follows, firstValue, if_pos rfl]
      exact ⟨1, (sampleConnector 1 true .verified).generation?_toDict, by decide, rfl⟩)
    (by decide) (by decide)
  have secondStep : (⟨first, [.server sampleServer]⟩ : RegistryWorld).step recordRevoked =
      ⟨second, [.server sampleServer]⟩ := RegistryWorld.step_recordConnector rfl recorded
  obtain ⟨third, recorded, state, thirdValue⟩ := state.record "a3" (mcpObservation sampleServer)
    (.mcp "m") (by rw [Database.Follows, secondValue, firstValue, absent]; rfl) (by decide)
    (by decide)
  have thirdStep : (⟨second, [.server sampleServer]⟩ : RegistryWorld).step recordAvailable =
      ⟨third, [RegistryCheck.server sampleServer].erase (.server sampleServer)⟩ :=
    RegistryWorld.step_recordServer (List.mem_singleton_self _) recorded
  rw [overtakenCheck, Transaction.run_cons, firstStep, Transaction.run_cons, checkStep,
    Transaction.run_cons, secondStep, Transaction.run_cons, thirdStep, Transaction.run_nil]
  intro held
  have connector := connectorSnapshot_of_stored (sampleConnector_built (by decide) (by decide))
    ((thirdValue (.connector "c")).trans (secondValue (.connector "c")))
  have server := mcpServer_of_stored sampleServer_built (thirdValue (.mcp "m"))
  have unavailable := held "c" _ connector rfl "m" _ server rfl
  cases unavailable

/-- Along every run, no available MCP server is bound to a revoked connector, exactly when each
recording whose checks pass is harmless in the state that it meets. -/
theorem registry_availability_iff (interpreter : Interpreter) (store : Database)
    (migratedAt : String) (calls : List (RegistryCall interpreter)) :
    Transaction.Along RegistryWorld.step RegistryWorld.Bound
        (RegistryWorld.start store migratedAt) calls ↔
      Transaction.Along RegistryWorld.step RegistryWorld.Clear
        (RegistryWorld.start store migratedAt) calls :=
  Transaction.along_congr (fun _ call invariant => invariant.bound_iff call)
    (fun _ call invariant clear => invariant.step call clear)
    (AvailabilityInvariant.start store migratedAt) calls

end VoodooOne
