import VoodooOne.Foundation.Interpreter

/-!
# Registry records

The observed state of a connector and of an MCP server.  A record is checked and normalized when it
is built, and a stored record is read back unchanged.
-/

namespace VoodooOne

/-- `REGISTRY_VERIFICATION_STATUSES`. -/
inductive VerificationStatus where
  | unverified
  | observed
  | verified
  | revoked
deriving DecidableEq, Repr

namespace VerificationStatus

def text : VerificationStatus → String
  | unverified => "UNVERIFIED"
  | observed => "OBSERVED"
  | verified => "VERIFIED"
  | revoked => "REVOKED"

def ofText? (text : String) : Option VerificationStatus :=
  [unverified, observed, verified, revoked].find? fun status => status.text = text

/-- `_verification_status`. -/
def ofValue (value : String) : Except Raised VerificationStatus := do
  let text ← requireText (.str value) "verification_status"
  orRaise (valueError "verification_status is invalid") (ofText? (upper text))

theorem ofValue_text (status : VerificationStatus) : ofValue status.text = .ok status := by
  cases status <;> decide

end VerificationStatus

/-- `sorted(set(values))`. -/
def sortedSet (values : List String) : List String := sortedNames values.dedup

/-- `_require_text` on a value that is a text. -/
def checkText (field value : String) : Except Raised Unit := do
  let _ ← requireText (.str value) field

/-- `_require_digest` on a value that is a text. -/
def checkDigest (field value : String) : Except Raised Unit :=
  raiseIf (¬IsDigest value) (valueError (field ++ " must be a lowercase SHA-256 digest"))

def canonicalTextTuple (values : List String) (field : String) : Except Raised (List String) := do
  let normalized := sortedSet values
  forEach (checkText field) normalized
  return normalized

theorem canonicalTextTuple_eq_ok {values result : List String} {field : String} :
    canonicalTextTuple values field = .ok result ↔
      result = sortedSet values ∧ ∀ value ∈ result, checkText field value = .ok () := by
  simp only [canonicalTextTuple, bind_eq_ok, forEach_eq_ok, pure_eq_ok]
  constructor
  · rintro ⟨_, valid, rfl⟩
    exact ⟨rfl, valid⟩
  · rintro ⟨rfl, valid⟩
    exact ⟨(), valid, rfl⟩

structure ConnectorCapabilitySnapshot where
  (connectorId providerId : String)
  generation : Int
  observedAt : String
  available : Bool
  (capabilityDefinitionIdentities scopes : List String)
  mutationRequiresApproval : Bool
  verificationStatus : VerificationStatus
  (source snapshotDigest : String)
deriving DecidableEq, Repr

namespace ConnectorCapabilitySnapshot

/-- Fields under the digest. -/
def claims (snapshot : ConnectorCapabilitySnapshot) : List (String × Json) :=
  [("snapshot_type", .str "connector-capability-snapshot/v1"),
    ("connector_id", .str snapshot.connectorId),
    ("provider_id", .str snapshot.providerId),
    ("generation", .int snapshot.generation),
    ("observed_at", .str snapshot.observedAt),
    ("available", .bool snapshot.available),
    ("capability_definition_identities", .texts snapshot.capabilityDefinitionIdentities),
    ("scopes", .texts snapshot.scopes),
    ("mutation_requires_approval", .bool snapshot.mutationRequiresApproval),
    ("verification_status", .str snapshot.verificationStatus.text),
    ("source", .str snapshot.source)]

def claimsWithoutDigest (snapshot : ConnectorCapabilitySnapshot) : Json := .object snapshot.claims

def toDict (snapshot : ConnectorCapabilitySnapshot) : Json :=
  .object (snapshot.claims ++ [("snapshot_digest", .str snapshot.snapshotDigest)])

/-- The constructor, with the checks of `__post_init__`. -/
def construct (interpreter : Interpreter) (connectorId providerId : String) (generation : Int)
    (observedAt : String) (available : Bool) (capabilityDefinitionIdentities scopes : List String)
    (mutationRequiresApproval : Bool) (verificationStatus source snapshotDigest : String) :
    Except Raised ConnectorCapabilitySnapshot := do
  checkText "connector_id" connectorId
  checkText "provider_id" providerId
  checkText "observed_at" observedAt
  checkText "source" source
  raiseIf (generation < 1) (valueError "generation must be positive")
  let identities ← canonicalTextTuple capabilityDefinitionIdentities
    "capability_definition_identity"
  forEach (checkDigest "capability_definition_identity") identities
  let scopes ← canonicalTextTuple scopes "scope"
  let status ← VerificationStatus.ofValue verificationStatus
  raiseIf (status = .revoked ∧ available = true)
    (valueError "revoked connector snapshot cannot be available")
  let snapshot : ConnectorCapabilitySnapshot := ⟨connectorId, providerId, generation, observedAt,
    available, identities, scopes, mutationRequiresApproval, status, source, snapshotDigest⟩
  checkDigest "snapshot_digest" snapshotDigest
  raiseIf (snapshotDigest ≠ digestOf interpreter.sha256 snapshot.claimsWithoutDigest)
    (valueError "snapshot_digest does not match connector snapshot")
  return snapshot

/-- The constructor accepts the attributes of the snapshot and keeps them. -/
def Built (interpreter : Interpreter) (snapshot : ConnectorCapabilitySnapshot) : Prop :=
  construct interpreter snapshot.connectorId snapshot.providerId snapshot.generation
    snapshot.observedAt snapshot.available snapshot.capabilityDefinitionIdentities snapshot.scopes
    snapshot.mutationRequiresApproval snapshot.verificationStatus.text snapshot.source
    snapshot.snapshotDigest = .ok snapshot

def fromDict (interpreter : Interpreter) (value : Json) :
    Except Raised ConnectorCapabilitySnapshot := do
  raiseIf (value.get "snapshot_type" ≠ .str "connector-capability-snapshot/v1")
    (valueError "connector snapshot type is invalid")
  let identities ← orRaise (valueError "capability_definition_identities are invalid")
    (value.get "capability_definition_identities").texts?
  let scopes ← orRaise (valueError "scopes are invalid") (value.get "scopes").texts?
  construct interpreter (interpreter.strField value "connector_id")
    (interpreter.strField value "provider_id") ((value.get "generation").int?.getD 0)
    (interpreter.strField value "observed_at") ((value.get "available").bool?.getD false)
    identities scopes ((value.get "mutation_requires_approval").bool?.getD false)
    (interpreter.strField value "verification_status") (interpreter.strField value "source")
    (interpreter.strField value "snapshot_digest")

variable {interpreter : Interpreter}

namespace Built

variable {snapshot : ConnectorCapabilitySnapshot}

theorem fromDict_toDict (built : snapshot.Built interpreter) :
    fromDict interpreter snapshot.toDict = .ok snapshot := by
  have distinct : ((snapshot.claims ++ [("snapshot_digest", Json.str snapshot.snapshotDigest)]).map
      Prod.fst).Nodup := by simp [claims]
  have read : ∀ entry ∈ snapshot.claims ++ [("snapshot_digest", Json.str snapshot.snapshotDigest)],
      snapshot.toDict.get? entry.1 = some entry.2 := by
    intro entry member
    rw [toDict, Json.get?_object _ _ distinct, Json.lookup_of_mem distinct member]
  simp only [claims, List.cons_append, List.nil_append, List.forall_mem_cons, List.not_mem_nil,
    false_imp_iff, implies_true, and_true] at read
  obtain ⟨type, connector, provider, generation, observed, available, identities, scopes, mutation,
    status, source, digest⟩ := read
  simp only [fromDict, Json.get, Interpreter.strField, type, connector, provider, generation,
    observed, available, identities, scopes, mutation, status, source, digest, Option.getD_some,
    Json.texts?_texts, Json.int?, Json.bool?, Interpreter.str, ne_eq, not_true_eq_false, raiseIf,
    if_false, orRaise, ok_bind]
  exact built

end Built

end ConnectorCapabilitySnapshot

/-- `MCP_TRANSPORT_KINDS`. -/
inductive TransportKind where
  | stdio
  | http
  | sse
  | streamableHttp
  | connectorNative
deriving DecidableEq, Repr

namespace TransportKind

def text : TransportKind → String
  | stdio => "stdio"
  | http => "http"
  | sse => "sse"
  | streamableHttp => "streamable-http"
  | connectorNative => "connector-native"

def ofText? (text : String) : Option TransportKind :=
  [stdio, http, sse, streamableHttp, connectorNative].find? fun kind => kind.text = text

end TransportKind

structure MCPServerDescriptor where
  (serverId connectorId : String)
  generation : Int
  transportKind : TransportKind
  (endpointIdentity protocolVersion : String)
  advertisedCapabilities : List String
  available : Bool
  verificationStatus : VerificationStatus
  (source observedAt descriptorDigest : String)
deriving DecidableEq, Repr

namespace MCPServerDescriptor

/-- Fields under the digest. -/
def claims (descriptor : MCPServerDescriptor) : List (String × Json) :=
  [("descriptor_type", .str "mcp-server-descriptor/v1"),
    ("server_id", .str descriptor.serverId),
    ("connector_id", .str descriptor.connectorId),
    ("generation", .int descriptor.generation),
    ("transport_kind", .str descriptor.transportKind.text),
    ("endpoint_identity", .str descriptor.endpointIdentity),
    ("protocol_version", .str descriptor.protocolVersion),
    ("advertised_capabilities", .texts descriptor.advertisedCapabilities),
    ("available", .bool descriptor.available),
    ("verification_status", .str descriptor.verificationStatus.text),
    ("source", .str descriptor.source),
    ("observed_at", .str descriptor.observedAt)]

def claimsWithoutDigest (descriptor : MCPServerDescriptor) : Json := .object descriptor.claims

def toDict (descriptor : MCPServerDescriptor) : Json :=
  .object (descriptor.claims ++ [("descriptor_digest", .str descriptor.descriptorDigest)])

/-- The constructor, with the checks of `__post_init__`. -/
def construct (interpreter : Interpreter) (serverId connectorId : String) (generation : Int)
    (transportKind endpointIdentity protocolVersion : String) (advertisedCapabilities : List String)
    (available : Bool) (verificationStatus source observedAt descriptorDigest : String) :
    Except Raised MCPServerDescriptor := do
  checkText "server_id" serverId
  checkText "connector_id" connectorId
  checkText "endpoint_identity" endpointIdentity
  checkText "protocol_version" protocolVersion
  checkText "source" source
  checkText "observed_at" observedAt
  raiseIf (generation < 1) (valueError "generation must be positive")
  let kind ← orRaise (valueError "transport_kind is invalid") (TransportKind.ofText? transportKind)
  let capabilities ← canonicalTextTuple advertisedCapabilities "advertised_capability"
  let status ← VerificationStatus.ofValue verificationStatus
  raiseIf (status = .revoked ∧ available = true)
    (valueError "revoked MCP descriptor cannot be available")
  let descriptor : MCPServerDescriptor := ⟨serverId, connectorId, generation, kind,
    endpointIdentity,
    protocolVersion, capabilities, available, status, source, observedAt, descriptorDigest⟩
  checkDigest "descriptor_digest" descriptorDigest
  raiseIf (descriptorDigest ≠ digestOf interpreter.sha256 descriptor.claimsWithoutDigest)
    (valueError "descriptor_digest does not match MCP descriptor")
  return descriptor

/-- The constructor accepts the attributes of the descriptor and keeps them. -/
def Built (interpreter : Interpreter) (descriptor : MCPServerDescriptor) : Prop :=
  construct interpreter descriptor.serverId descriptor.connectorId descriptor.generation
    descriptor.transportKind.text descriptor.endpointIdentity descriptor.protocolVersion
    descriptor.advertisedCapabilities descriptor.available descriptor.verificationStatus.text
    descriptor.source descriptor.observedAt descriptor.descriptorDigest = .ok descriptor

def fromDict (interpreter : Interpreter) (value : Json) : Except Raised MCPServerDescriptor := do
  raiseIf (value.get "descriptor_type" ≠ .str "mcp-server-descriptor/v1")
    (valueError "MCP descriptor type is invalid")
  let capabilities ← orRaise (valueError "advertised_capabilities are invalid")
    (value.get "advertised_capabilities").texts?
  construct interpreter (interpreter.strField value "server_id")
    (interpreter.strField value "connector_id") ((value.get "generation").int?.getD 0)
    (interpreter.strField value "transport_kind") (interpreter.strField value "endpoint_identity")
    (interpreter.strField value "protocol_version") capabilities
    ((value.get "available").bool?.getD false) (interpreter.strField value "verification_status")
    (interpreter.strField value "source") (interpreter.strField value "observed_at")
    (interpreter.strField value "descriptor_digest")

variable {interpreter : Interpreter}

namespace Built

variable {descriptor : MCPServerDescriptor}

theorem fromDict_toDict (built : descriptor.Built interpreter) :
    fromDict interpreter descriptor.toDict = .ok descriptor := by
  have distinct : ((descriptor.claims ++
      [("descriptor_digest", Json.str descriptor.descriptorDigest)]).map Prod.fst).Nodup := by
    simp [claims]
  have read : ∀ entry ∈ descriptor.claims ++
      [("descriptor_digest", Json.str descriptor.descriptorDigest)],
      descriptor.toDict.get? entry.1 = some entry.2 := by
    intro entry member
    rw [toDict, Json.get?_object _ _ distinct, Json.lookup_of_mem distinct member]
  simp only [claims, List.cons_append, List.nil_append, List.forall_mem_cons, List.not_mem_nil,
    false_imp_iff, implies_true, and_true] at read
  obtain ⟨type, server, connector, generation, kind, endpoint, version, capabilities, available,
    status, source, observed, digest⟩ := read
  simp only [fromDict, Json.get, Interpreter.strField, type, server, connector, generation, kind,
    endpoint, version, capabilities, available, status, source, observed, digest, Option.getD_some,
    Json.texts?_texts, Json.int?, Json.bool?, Interpreter.str, ne_eq, not_true_eq_false, raiseIf,
    if_false, orRaise, ok_bind]
  exact built

end Built

end MCPServerDescriptor

end VoodooOne
