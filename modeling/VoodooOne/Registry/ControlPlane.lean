import VoodooOne.Foundation.Interpreter

/-!
# Control-plane contracts

Projects, events with their state transitions, and the pointer to the shared state of a project.
Each is checked when it is built.
-/

namespace VoodooOne

/-- `_require_nonempty`: the text without white space at its ends. -/
def requireNonempty (value field : String) : Except Raised String := do
  let normalized := strip value
  raiseIf (normalized = "") (valueError (field ++ " must not be empty"))
  return normalized

def requirePrefixedId (value kind field : String) : Except Raised String := do
  let normalized ← requireNonempty value field
  raiseIf (¬(kind ++ "_").toList <+: normalized.toList)
    (valueError (field ++ " must use " ++ kind ++ "_ prefix"))
  return normalized

def genesisStateHash : String := "GENESIS"

/-- `_require_state_hash`; no letter outside ASCII has a hexadecimal digit as its lowercase. -/
def requireStateHash (value field : String) : Except Raised String :=
  if value = genesisStateHash then .ok value
  else do
    let normalized := value.toLower
    raiseIf (¬IsDigest normalized) (valueError (field ++ " must be GENESIS or a sha256 digest"))
    return normalized

/-- `_decode_canonical_object` on the canonical text of a value. -/
def requireObject (value : Json) (field : String) : Except Raised Unit :=
  match value with
  | .obj _ => .ok ()
  | _ => .error (valueError (field ++ " must decode to a JSON object"))

/-- A tuple of texts that must not be empty. -/
def requireNonemptyAll (field : String) : List String → Except Raised (List String)
  | [] => .ok []
  | value :: values => do
      let first ← requireNonempty value field
      let later ← requireNonemptyAll field values
      return first :: later

def Json.optional (value : Option String) : Json := value.elim .null .str

variable {value field result : String}

theorem requireNonempty_eq_ok :
    requireNonempty value field = .ok result ↔ result = strip value ∧ result ≠ "" := by
  simp only [requireNonempty, bind_eq_ok, raiseIf_eq_ok, pure_eq_ok]
  constructor
  · rintro ⟨_, nonempty, rfl⟩
    exact ⟨rfl, nonempty⟩
  · rintro ⟨rfl, nonempty⟩
    exact ⟨(), nonempty, rfl⟩

theorem requireNonempty_again (normalized : requireNonempty value field = .ok result)
    (other : String) :
    requireNonempty result other = .ok result := by
  obtain ⟨rfl, nonempty⟩ := requireNonempty_eq_ok.mp normalized
  exact requireNonempty_eq_ok.mpr ⟨(strip_strip value).symm, nonempty⟩

theorem toLower_of_isDigest {text : String} (digest : IsDigest text) : text.toLower = text := by
  have digits : "0123456789abcdef".toList.map Char.toLower = "0123456789abcdef".toList.map id := by
    decide
  have same : ∀ character ∈ text.toList, character.toLower = id character :=
    fun character member => List.map_inj_left.mp digits character (digest.2 character member)
  rw [← String.toList_inj, toList_toLower, List.map_congr_left same]
  exact List.map_id _

theorem requireStateHash_of_isDigest {text : String} (digest : IsDigest text) (field : String) :
    requireStateHash text field = .ok text := by
  unfold requireStateHash
  split
  · rfl
  · simp only [toLower_of_isDigest digest, bind_eq_ok, raiseIf_eq_ok, not_not, pure_eq_ok]
    exact ⟨(), digest, trivial⟩

theorem requireStateHash_again (normalized : requireStateHash value field = .ok result)
    (other : String) :
    requireStateHash result other = .ok result := by
  unfold requireStateHash at normalized
  split at normalized
  · next isGenesis =>
    cases normalized
    rw [requireStateHash, if_pos isGenesis]
  · simp only [bind_eq_ok, raiseIf_eq_ok, not_not, pure_eq_ok] at normalized
    obtain ⟨_, digest, rfl⟩ := normalized
    exact requireStateHash_of_isDigest digest other

structure CorrelationContext where
  (runId correlationId : String)
  causationEventId : Option String
deriving DecidableEq, Repr

namespace CorrelationContext

def construct (runId correlationId : String) (causationEventId : Option String) :
    Except Raised CorrelationContext := do
  let runId ← requirePrefixedId runId "run" "run_id"
  let correlationId ← requirePrefixedId correlationId "corr" "correlation_id"
  match causationEventId with
  | none => return ⟨runId, correlationId, none⟩
  | some eventId => do
      let eventId ← requirePrefixedId eventId "evt" "causation_event_id"
      return ⟨runId, correlationId, some eventId⟩

def Built (context : CorrelationContext) : Prop :=
  ∃ runId correlationId causationEventId,
    construct runId correlationId causationEventId = .ok context

def asDict (context : CorrelationContext) : Json :=
  .object [("schema", .str "voodoo.correlation-context.v1"),
    ("run_id", .str context.runId),
    ("correlation_id", .str context.correlationId),
    ("causation_event_id", .optional context.causationEventId)]

end CorrelationContext

structure ProjectDescriptor where
  (projectId canonicalRepository canonicalRef : String)
  aliases : List String
deriving DecidableEq, Repr

namespace ProjectDescriptor

def construct (projectId canonicalRepository canonicalRef : String) (aliases : List String) :
    Except Raised ProjectDescriptor := do
  let projectId ← requireNonempty projectId "project_id"
  let repository ← requireNonempty canonicalRepository "canonical_repository"
  let canonicalRef ← requireNonempty canonicalRef "canonical_ref"
  raiseIf (repository.toList.count '/' ≠ 1 ∨ repository.toList.any isSpace = true)
    (valueError "canonical_repository must use owner/repository form")
  raiseIf (¬"refs/".toList <+: canonicalRef.toList)
    (valueError "canonical_ref must be an explicit refs/... identity")
  let aliases ← requireNonemptyAll "alias" aliases
  raiseIf (¬aliases.Nodup) (valueError "project aliases must be unique")
  raiseIf (projectId ∈ aliases) (valueError "project_id must not also appear as an alias")
  return ⟨projectId, repository, canonicalRef, aliases⟩

def Built (project : ProjectDescriptor) : Prop :=
  ∃ projectId canonicalRepository canonicalRef aliases,
    construct projectId canonicalRepository canonicalRef aliases = .ok project

def asDict (project : ProjectDescriptor) : Json :=
  .object [("schema", .str "voodoo.project-descriptor.v1"),
    ("project_id", .str project.projectId),
    ("canonical_repository", .str project.canonicalRepository),
    ("canonical_ref", .str project.canonicalRef),
    ("aliases", .texts project.aliases)]

end ProjectDescriptor

theorem ProjectDescriptor.Built.normalized {project : ProjectDescriptor} (built : project.Built)
    (field : String) : requireNonempty project.projectId field = .ok project.projectId := by
  obtain ⟨_, _, _, _, constructed⟩ := built
  simp only [construct, bind_eq_ok, pure_eq_ok] at constructed
  obtain ⟨projectId, normalized, _, -, _, -, _, -, _, -, _, -, _, -, _, -, rfl⟩ := constructed
  exact requireNonempty_again normalized field

/-- `ImmutableProjectRegistry`: projects by identity and by repository. -/
structure ImmutableProjectRegistry where
  byIdentity : List (String × ProjectDescriptor)
  byRepository : List (String × ProjectDescriptor)
deriving DecidableEq, Repr

namespace ImmutableProjectRegistry

def addIdentities (project : ProjectDescriptor) :
    List String → ImmutableProjectRegistry → Except Raised ImmutableProjectRegistry
  | [], registry => .ok registry
  | identity :: identities, registry => do
      raiseIf (identity ∈ registry.byIdentity.map Prod.fst)
        (valueError ("duplicate project identity: " ++ identity))
      addIdentities project identities
        ⟨registry.byIdentity ++ [(identity, project)], registry.byRepository⟩

def addProjects (interpreter : Interpreter) :
    List ProjectDescriptor → ImmutableProjectRegistry → Except Raised ImmutableProjectRegistry
  | [], registry => .ok registry
  | project :: projects, registry => do
      let registry ← addIdentities project (project.projectId :: project.aliases) registry
      let repositoryKey := interpreter.casefold project.canonicalRepository
      raiseIf (repositoryKey ∈ registry.byRepository.map Prod.fst)
        (valueError ("duplicate canonical repository: " ++ project.canonicalRepository))
      addProjects interpreter projects
        ⟨registry.byIdentity, registry.byRepository ++ [(repositoryKey, project)]⟩

def construct (interpreter : Interpreter) (projects : List ProjectDescriptor) :
    Except Raised ImmutableProjectRegistry := addProjects interpreter projects ⟨[], []⟩

def resolve (registry : ImmutableProjectRegistry) (identity : String) :
    Except Raised ProjectDescriptor :=
  orRaise ⟨.lookupError, "unknown project identity: " ++ identity⟩
    (registry.byIdentity.lookup identity)

def resolveRepository (interpreter : Interpreter) (registry : ImmutableProjectRegistry)
    (repository : String) : Except Raised ProjectDescriptor :=
  orRaise ⟨.lookupError, "unknown project repository: " ++ repository⟩
    (registry.byRepository.lookup (interpreter.casefold repository))

end ImmutableProjectRegistry

/-- `StateTransition`; the next state is the value whose canonical text the source holds. -/
structure StateTransition where
  previousStateHash : String
  nextState : Json
  nextStateHash : String
deriving DecidableEq

namespace StateTransition

def construct (sha256 : String → String) (previousStateHash : String) (nextState : Json)
    (nextStateHash : String) : Except Raised StateTransition := do
  let previous ← requireStateHash previousStateHash "previous_state_hash"
  requireObject nextState "next_state_json"
  let supplied ← requireStateHash nextStateHash "next_state_hash"
  raiseIf (supplied = genesisStateHash ∨ supplied ≠ digestOf sha256 nextState)
    (valueError "next_state_hash does not match next_state_json")
  return ⟨previous, nextState, supplied⟩

def Built (sha256 : String → String) (transition : StateTransition) : Prop :=
  ∃ previousStateHash nextState nextStateHash,
    construct sha256 previousStateHash nextState nextStateHash = .ok transition

def asDict (transition : StateTransition) : Json :=
  .object [("schema", .str "voodoo.state-transition.v1"),
    ("previous_state_hash", .str transition.previousStateHash),
    ("next_state_hash", .str transition.nextStateHash),
    ("next_state", transition.nextState)]

end StateTransition

theorem StateTransition.Built.normalized {sha256 : String → String} {transition : StateTransition}
    (built : transition.Built sha256) (field : String) :
    requireStateHash transition.nextStateHash field = .ok transition.nextStateHash := by
  obtain ⟨_, _, _, constructed⟩ := built
  simp only [construct, bind_eq_ok, pure_eq_ok] at constructed
  obtain ⟨_, -, _, -, supplied, normalized, _, -, rfl⟩ := constructed
  exact requireStateHash_again normalized field

/-- `EVENT_STATUSES`. -/
inductive EventStatus where
  | observed
  | verified
  | proposed
  | blocked
  | failed
  | unknown
deriving DecidableEq, Repr

namespace EventStatus

def text : EventStatus → String
  | observed => "OBSERVED"
  | verified => "VERIFIED"
  | proposed => "PROPOSED"
  | blocked => "BLOCKED"
  | failed => "FAILED"
  | unknown => "UNKNOWN"

def ofText? (text : String) : Option EventStatus :=
  [observed, verified, proposed, blocked, failed, unknown].find? fun status => status.text = text

end EventStatus

/-- `ControlPlaneEvent`; the payload is the value whose canonical text the source holds. -/
structure ControlPlaneEvent where
  (eventId eventType occurredAt actorId component action resource : String)
  status : EventStatus
  correlation : CorrelationContext
  project : ProjectDescriptor
  payload : Json
  (evidenceRefs decisionRefs : List String)
  stateTransition : Option StateTransition
deriving DecidableEq

namespace ControlPlaneEvent

def construct (eventId eventType occurredAt actorId component action resource status : String)
    (correlation : CorrelationContext) (project : ProjectDescriptor) (payload : Json)
    (evidenceRefs decisionRefs : List String) (stateTransition : Option StateTransition) :
    Except Raised ControlPlaneEvent := do
  let eventId ← requirePrefixedId eventId "evt" "event_id"
  let eventType ← requireNonempty eventType "event_type"
  let occurredAt ← requireNonempty occurredAt "occurred_at"
  let actorId ← requireNonempty actorId "actor_id"
  let component ← requireNonempty component "component"
  let action ← requireNonempty action "action"
  let resource ← requireNonempty resource "resource"
  let statusText ← requireNonempty status "status"
  let status ← orRaise (valueError ("unsupported control-plane event status: " ++ upper statusText))
    (EventStatus.ofText? (upper statusText))
  requireObject payload "payload_json"
  let evidenceRefs ← requireNonemptyAll "evidence_ref" evidenceRefs
  let decisionRefs ← requireNonemptyAll "decision_ref" decisionRefs
  raiseIf (¬evidenceRefs.Nodup) (valueError "evidence_refs must be unique")
  raiseIf (¬decisionRefs.Nodup) (valueError "decision_refs must be unique")
  return ⟨eventId, eventType, occurredAt, actorId, component, action, resource, status, correlation,
    project, payload, evidenceRefs, decisionRefs, stateTransition⟩

/-- The constructor returns this event, and its parts are built. -/
structure Built (sha256 : String → String) (event : ControlPlaneEvent) : Prop where
  constructed : ∃ eventId eventType occurredAt actorId component action resource status payload
    evidenceRefs decisionRefs, construct eventId eventType occurredAt actorId component action
      resource status event.correlation event.project payload evidenceRefs decisionRefs
      event.stateTransition = .ok event
  correlation : event.correlation.Built
  project : event.project.Built
  stateTransition : ∀ transition ∈ event.stateTransition, transition.Built sha256

def asDict (event : ControlPlaneEvent) : Json :=
  .object [("schema", .str "voodoo.control-plane-event.v1"),
    ("event_id", .str event.eventId),
    ("event_type", .str event.eventType),
    ("occurred_at", .str event.occurredAt),
    ("actor_id", .str event.actorId),
    ("component", .str event.component),
    ("action", .str event.action),
    ("resource", .str event.resource),
    ("status", .str event.status.text),
    ("correlation", event.correlation.asDict),
    ("project", event.project.asDict),
    ("payload", event.payload),
    ("evidence_refs", .texts event.evidenceRefs),
    ("decision_refs", .texts event.decisionRefs),
    ("state_transition", event.stateTransition.elim .null StateTransition.asDict)]

end ControlPlaneEvent

/-- `SharedStatePointer`; the state is the value whose canonical text the source holds. -/
structure SharedStatePointer where
  projectId : String
  revision : Int
  stateHash : String
  state : Json
  (lastEventId lastCorrelationId updatedAt : Option String)
deriving DecidableEq

namespace SharedStatePointer

def construct (sha256 : String → String) (projectId : String) (revision : Int) (stateHash : String)
    (state : Json) (lastEventId lastCorrelationId updatedAt : Option String) :
    Except Raised SharedStatePointer := do
  let projectId ← requireNonempty projectId "project_id"
  raiseIf (revision < 0) (valueError "revision must be non-negative")
  let stateHash ← requireStateHash stateHash "state_hash"
  requireObject state "state_json"
  raiseIf (revision = 0 ∧ stateHash ≠ genesisStateHash)
    (valueError "revision zero must use GENESIS state hash")
  raiseIf (revision = 0 ∧ state ≠ .obj [])
    (valueError "revision zero must use empty canonical state")
  raiseIf (revision = 0 ∧ [lastEventId, lastCorrelationId, updatedAt] ≠ [none, none, none])
    (valueError "genesis pointer must not claim event lineage")
  raiseIf (revision > 0 ∧ stateHash = genesisStateHash)
    (valueError "non-genesis revision requires a sha256 state hash")
  raiseIf (revision > 0 ∧ digestOf sha256 state ≠ stateHash)
    (valueError "state_hash does not match state_json")
  raiseIf (revision > 0 ∧ ∃ value ∈ [lastEventId, lastCorrelationId, updatedAt],
      value.getD "" = "")
    (valueError "non-genesis pointer requires complete event lineage")
  if revision > 0 then
    let _ ← requirePrefixedId (lastEventId.getD "") "evt" "last_event_id"
    let _ ← requirePrefixedId (lastCorrelationId.getD "") "corr" "last_correlation_id"
  return ⟨projectId, revision, stateHash, state, lastEventId, lastCorrelationId, updatedAt⟩

def genesis (sha256 : String → String) (projectId : String) : Except Raised SharedStatePointer :=
  construct sha256 projectId 0 genesisStateHash (.obj []) none none none

/-- Fields of `as_dict`. -/
def fields (pointer : SharedStatePointer) : List (String × Json) :=
  [("schema", .str "voodoo.shared-state-pointer.v1"),
    ("project_id", .str pointer.projectId),
    ("revision", .int pointer.revision),
    ("state_hash", .str pointer.stateHash),
    ("state", pointer.state),
    ("last_event_id", .optional pointer.lastEventId),
    ("last_correlation_id", .optional pointer.lastCorrelationId),
    ("updated_at", .optional pointer.updatedAt)]

def asDict (pointer : SharedStatePointer) : Json := .object pointer.fields

end SharedStatePointer

def ControlPlaneReconciler.apply (sha256 : String → String) (current : SharedStatePointer)
    (event : ControlPlaneEvent) : Except Raised SharedStatePointer := do
  raiseIf (event.project.projectId ≠ current.projectId)
    (valueError "event project does not match current shared-state project")
  match event.stateTransition with
  | none => return current
  | some transition => do
      raiseIf (transition.previousStateHash ≠ current.stateHash)
        (valueError "state transition does not extend the current state hash")
      SharedStatePointer.construct sha256 current.projectId (current.revision + 1)
        transition.nextStateHash transition.nextState (some event.eventId)
        (some event.correlation.correlationId) (some event.occurredAt)

end VoodooOne
