import VoodooOne.Registry.Runs

/-!
# Reconciliation of shared state

For each project, the stored pointer is the fold of the reconciler over the events in the audit log:
no transition is lost, and none is applied twice.
-/

namespace VoodooOne

open DurableControlPlaneRegistry

namespace SharedStatePointer

variable {interpreter : Interpreter} {pointer : SharedStatePointer}

/-- The constructor accepts the attributes of the pointer and keeps them. -/
def Built (interpreter : Interpreter) (pointer : SharedStatePointer) : Prop :=
  construct interpreter.sha256 pointer.projectId pointer.revision pointer.stateHash pointer.state
    pointer.lastEventId pointer.lastCorrelationId pointer.updatedAt = .ok pointer

structure Constructed (interpreter : Interpreter) (projectId : String) (revision : Int)
    (stateHash : String) (pointer : SharedStatePointer) : Prop where
  built : pointer.Built interpreter
  project : requireNonempty projectId "project_id" = .ok pointer.projectId
  hash : requireStateHash stateHash "state_hash" = .ok pointer.stateHash
  revision : pointer.revision = revision
  object : requireObject pointer.state "state_json" = .ok ()

theorem construct_eq_ok {projectId stateHash : String} {revision : Int} {state : Json}
    {lastEventId lastCorrelationId updatedAt : Option String}
    (constructed : construct interpreter.sha256 projectId revision stateHash state lastEventId
      lastCorrelationId updatedAt = .ok pointer) :
    Constructed interpreter projectId revision stateHash pointer := by
  simp only [construct, bind_eq_ok, raiseIf_eq_ok] at constructed
  obtain ⟨projectId, project, _, positive, stateHash, hash, _, object, _, first, _, second, _,
    third, _, fourth, _, fifth, _, sixth, rest⟩ := constructed
  have kept : pointer = ⟨projectId, revision, stateHash, state, lastEventId, lastCorrelationId,
      updatedAt⟩ := by
    split at rest
    · simp only [bind_eq_ok, pure_eq_ok] at rest
      obtain ⟨_, _, _, _, rfl⟩ := rest
      rfl
    · simp only [pure_eq_ok] at rest
      exact rest.symm
  subst kept
  refine ⟨?_, project, hash, rfl, object⟩
  simp only [Built, construct, bind_eq_ok, raiseIf_eq_ok]
  exact ⟨projectId, requireNonempty_again project _, (), positive, stateHash,
    requireStateHash_again hash _, (), object, (), first, (), second, (), third, (), fourth, (),
    fifth, (), sixth, rest⟩

namespace Built

theorem fromDict_asDict (built : pointer.Built interpreter) :
    fromDict interpreter pointer.asDict = .ok pointer := by
  have distinct : (pointer.fields.map Prod.fst).Nodup := by simp [fields]
  have read : ∀ entry ∈ pointer.fields, pointer.asDict.get? entry.1 = some entry.2 := by
    intro entry member
    rw [asDict, Json.get?_object _ _ distinct, Json.lookup_of_mem distinct member]
  have option (key : String) (value : Option String)
      (shown : pointer.asDict.get? key = some (.optional value)) :
      interpreter.strOption pointer.asDict key = value := by
    rw [Interpreter.strOption, Json.get, shown]
    cases value <;> rfl
  simp only [fields, List.forall_mem_cons, List.not_mem_nil, false_imp_iff, implies_true,
    and_true] at read
  obtain ⟨schema, project, revision, hash, state, event, correlation, updated⟩ := read
  have object := (construct_eq_ok built).object
  have keys : ¬pointer.state.keys = none := by
    cases isState : pointer.state with
    | obj fields => exact Option.some_ne_none _
    | _ =>
        rw [isState] at object
        cases object
  simp only [fromDict, option _ _ event, option _ _ correlation, option _ _ updated, Json.get,
    Interpreter.strField, schema, project, revision, hash, state, Option.getD_some, Json.asInt,
    Interpreter.str, ne_eq, not_true_eq_false, raiseIf, if_false, keys, ok_bind, catching_eq_ok]
  exact built

end Built

def initial (projectId : String) : SharedStatePointer :=
  ⟨projectId, 0, genesisStateHash, .obj [], none, none, none⟩

theorem genesis_eq_initial {sha256 : String → String} {projectId : String}
    (normalized : requireNonempty projectId "project_id" = .ok projectId) :
    genesis sha256 projectId = .ok (initial projectId) := by
  have hash : requireStateHash genesisStateHash "state_hash" = .ok genesisStateHash := by
    rw [requireStateHash, if_pos rfl]
  rw [genesis, construct, normalized, ok_bind, hash]
  rfl

end SharedStatePointer

section Apply

variable {interpreter : Interpreter} {current next : SharedStatePointer} {event : ControlPlaneEvent}

/-- An event without a transition keeps the pointer; one with a transition extends its hash. -/
theorem ControlPlaneReconciler.apply_eq_ok
    (applied : ControlPlaneReconciler.apply interpreter.sha256 current event = .ok next) :
    event.project.projectId = current.projectId ∧ ((event.stateTransition = none ∧ next = current) ∨
        ∃ transition, event.stateTransition = some transition ∧
          transition.previousStateHash = current.stateHash ∧
            SharedStatePointer.construct interpreter.sha256 current.projectId (current.revision + 1)
              transition.nextStateHash transition.nextState (some event.eventId)
              (some event.correlation.correlationId) (some event.occurredAt) = .ok next) := by
  simp only [apply, bind_eq_ok, raiseIf_eq_ok, not_not] at applied
  obtain ⟨_, project, applied⟩ := applied
  refine ⟨project, ?_⟩
  cases transition : event.stateTransition with
  | none =>
      rw [transition] at applied
      exact .inl ⟨rfl, (pure_eq_ok.mp applied).symm⟩
  | some found =>
      simp only [transition, bind_eq_ok, raiseIf_eq_ok, not_not] at applied
      obtain ⟨_, extending, constructed⟩ := applied
      exact .inr ⟨found, rfl, extending, constructed⟩

end Apply

/-- An audit event that logs a control-plane event of a project. -/
def IsProjectEvent (projectId : String) (row : AuditEventRow) : Prop :=
  "control_plane.event:".toList <+: row.action.toList ∧
    row.targetType = "control_plane_project" ∧ row.targetId = projectId

instance (projectId : String) : DecidablePred (IsProjectEvent projectId) := fun row =>
  inferInstanceAs (Decidable ("control_plane.event:".toList <+: row.action.toList ∧
    row.targetType = "control_plane_project" ∧ row.targetId = projectId))

/-- The logged events of a project, in audit order. -/
def Database.projectEvents (db : Database) (projectId : String) : List Json :=
  (db.auditEvents.filter fun row => IsProjectEvent projectId row).map (·.payload)

def transitionsOf (events : List ControlPlaneEvent) : List StateTransition :=
  events.filterMap (·.stateTransition)

/-- Each transition starts from the hash that the one before it ends with. -/
def Chained : String → List StateTransition → Prop
  | _, [] => True
  | hash, transition :: transitions =>
      transition.previousStateHash = hash ∧ Chained transition.nextStateHash transitions

def lastHash (hash : String) (transitions : List StateTransition) : String :=
  transitions.foldl (fun _ transition => transition.nextStateHash) hash

theorem Chained.append {hash : String} {transitions : List StateTransition}
    (chained : Chained hash transitions) {transition : StateTransition}
    (follows : transition.previousStateHash = lastHash hash transitions) :
    Chained hash (transitions ++ [transition]) := by
  induction transitions generalizing hash with
  | nil => exact ⟨follows, trivial⟩
  | cons first transitions induction => exact ⟨chained.1, induction chained.2 follows⟩

structure Reconciled (interpreter : Interpreter) (db : Database) (projectId : String)
    (events : List ControlPlaneEvent) (pointer : SharedStatePointer) : Prop where
  /-- The audit log holds these events of the project. -/
  logged : db.projectEvents projectId = events.map (·.asDict)
  /-- This is the stored pointer, or the genesis pointer where there is none. -/
  stored : currentPointer interpreter db projectId = .ok pointer
  /-- The pointer is the fold of the reconciler from genesis. -/
  folded : ∃ genesis, SharedStatePointer.genesis interpreter.sha256 projectId = .ok genesis ∧
    events.foldlM (ControlPlaneReconciler.apply interpreter.sha256) genesis = .ok pointer
  revision : pointer.revision = (transitionsOf events).length
  chained : Chained genesisStateHash (transitionsOf events)

/-- What every transaction keeps of a project. -/
structure PointerInvariant (interpreter : Interpreter) (db : Database) (projectId : String)
    (events : List ControlPlaneEvent) (pointer : SharedStatePointer) : Prop where
  logged : db.projectEvents projectId = events.map (·.asDict)
  folded : events.foldlM (ControlPlaneReconciler.apply interpreter.sha256)
    (SharedStatePointer.initial projectId) = .ok pointer
  revision : pointer.revision = (transitionsOf events).length
  chained : Chained genesisStateHash (transitionsOf events)
  hash : pointer.stateHash = lastHash genesisStateHash (transitionsOf events)
  project : pointer.projectId = projectId
  value : (db.registryValue (.sharedState projectId) = none ∧
      pointer = SharedStatePointer.initial projectId) ∨
    (db.registryValue (.sharedState projectId) = some (.record pointer.asDict) ∧
      pointer.Built interpreter)

namespace PointerInvariant

variable {interpreter : Interpreter} {db next : Database} {projectId : String}
  {events : List ControlPlaneEvent} {pointer : SharedStatePointer}

theorem current (invariant : PointerInvariant interpreter db projectId events pointer)
    (normalized : requireNonempty projectId "project_id" = .ok projectId) :
    currentPointer interpreter db projectId = .ok pointer := by
  rw [currentPointer]
  rcases invariant.value with ⟨absent, rfl⟩ | ⟨stored, built⟩
  · rw [absent]
    exact SharedStatePointer.genesis_eq_initial normalized
  · have read := built.fromDict_asDict
    rw [SharedStatePointer.asDict] at stored read
    simp only [stored, decodeObject_object, ok_bind, read]

theorem reconciled (invariant : PointerInvariant interpreter db projectId events pointer)
    (normalized : requireNonempty projectId "project_id" = .ok projectId) :
    Reconciled interpreter db projectId events pointer where
  logged := invariant.logged
  stored := invariant.current normalized
  folded := ⟨_, SharedStatePointer.genesis_eq_initial normalized, invariant.folded⟩
  revision := invariant.revision
  chained := invariant.chained

theorem kept (invariant : PointerInvariant interpreter db projectId events pointer)
    {row : AuditEventRow} (appended : next.auditEvents = db.auditEvents ++ [row])
    (other : ¬IsProjectEvent projectId row)
    (value : next.registryValue (.sharedState projectId) =
      db.registryValue (.sharedState projectId)) :
    PointerInvariant interpreter next projectId events pointer where
  logged := by
    have logged := invariant.logged
    unfold Database.projectEvents at logged ⊢
    rw [appended, List.filter_append, List.map_append, logged]
    simp [other]
  folded := invariant.folded
  revision := invariant.revision
  chained := invariant.chained
  hash := invariant.hash
  project := invariant.project
  value := by
    rw [value]
    exact invariant.value

theorem projectEvents_logged {event : ControlPlaneEvent} {sha256 : String → String} {stamp : Stamp}
    (logged : db.projectEvents event.project.projectId = events.map (·.asDict))
    (appended : next.auditEvents = db.auditEvents ++
      [db.auditRow sha256 stamp (eventEntry event)]) :
    next.projectEvents event.project.projectId = (events ++ [event]).map (·.asDict) := by
  have isEvent : IsProjectEvent event.project.projectId
      (db.auditRow sha256 stamp (eventEntry event)) := by
    refine ⟨?_, rfl, rfl⟩
    rw [Database.auditRow, eventEntry, String.toList_append]
    exact List.prefix_append _ _
  unfold Database.projectEvents at logged ⊢
  rw [appended, List.filter_append, List.map_append, logged, List.map_append]
  simp only [List.filter_cons, isEvent, decide_true, if_true, List.filter_nil]
  rfl

theorem logged_step {stamp : Stamp} {event : ControlPlaneEvent}
    (invariant : PointerInvariant interpreter db event.project.projectId events pointer)
    (applied : ControlPlaneReconciler.apply interpreter.sha256 pointer event = .ok pointer) :
    PointerInvariant interpreter (db.setAuditEvents
      (db.auditEvents ++ [db.auditRow interpreter.sha256 stamp (eventEntry event)]))
        event.project.projectId (events ++ [event]) pointer := by
  obtain ⟨-, ⟨none, -⟩ | ⟨transition, -, -, constructed⟩⟩ :=
    ControlPlaneReconciler.apply_eq_ok applied
  · have same : transitionsOf (events ++ [event]) = transitionsOf events := by
      simp [transitionsOf, none]
    refine ⟨projectEvents_logged invariant.logged rfl, ?_, ?_, ?_, ?_, invariant.project,
      invariant.value⟩
    · rw [List.foldlM_append, invariant.folded, ok_bind, List.foldlM_cons, applied, ok_bind]
      rfl
    · rw [same]
      exact invariant.revision
    · rw [same]
      exact invariant.chained
    · rw [same]
      exact invariant.hash
  · have advanced := (SharedStatePointer.construct_eq_ok constructed).revision
    omega

theorem reconciled_step {now : String} {stamp : Stamp} {event : ControlPlaneEvent}
    {after : SharedStatePointer} (built : event.Built interpreter.sha256)
    (invariant : PointerInvariant interpreter db event.project.projectId events pointer)
    (applied : ControlPlaneReconciler.apply interpreter.sha256 pointer event = .ok after)
    (changed : after ≠ pointer) :
    PointerInvariant interpreter ((db.upsertFlag
      ⟨(RegistryKey.sharedState event.project.projectId).text, .record after.asDict, event.actorId,
        now⟩).setAuditEvents (db.auditEvents ++
          [db.auditRow interpreter.sha256 stamp (eventEntry event)]))
        event.project.projectId (events ++ [event]) after := by
  obtain ⟨same, ⟨-, kept⟩ | ⟨transition, carried, follows, constructed⟩⟩ :=
    ControlPlaneReconciler.apply_eq_ok applied
  · exact absurd kept changed
  · have result := SharedStatePointer.construct_eq_ok constructed
    have longer : transitionsOf (events ++ [event]) = transitionsOf events ++ [transition] := by
      simp [transitionsOf, carried]
    have hash : after.stateHash = transition.nextStateHash := by
      have normalized := (built.stateTransition transition carried).normalized "state_hash"
      exact Except.ok.inj (result.hash.symm.trans normalized)
    have project : after.projectId = event.project.projectId := by
      have normalized := built.project.normalized "project_id"
      rw [same] at normalized
      exact (Except.ok.inj (result.project.symm.trans normalized)).trans same.symm
    refine ⟨projectEvents_logged invariant.logged rfl, ?_, ?_, ?_, ?_, project,
      .inr ⟨?_, result.built⟩⟩
    · rw [List.foldlM_append, invariant.folded, ok_bind, List.foldlM_cons, applied, ok_bind]
      rfl
    · rw [longer, result.revision, invariant.revision, List.length_append, List.length_singleton]
      rfl
    · rw [longer]
      exact invariant.chained.append (follows.trans invariant.hash)
    · rw [longer, hash, lastHash, List.foldl_append]
      rfl
    · exact db.registryValue_written (.sharedState event.project.projectId) _ _ _

end PointerInvariant

/-- The audit event of a transaction logs no event of a project that the transaction is not about.
-/
theorem RegistryStep.not_projectEvent {interpreter : Interpreter} {db next : Database}
    {write : RegistryWrite interpreter} (step : RegistryStep db write next) {projectId : String}
    (other : write.key ≠ some (.sharedState projectId)) :
    ∃ row, next.auditEvents = db.auditEvents ++ [row] ∧ ¬IsProjectEvent projectId row := by
  cases step with
  | project context project built entry action target =>
      refine ⟨_, rfl, fun isEvent => ?_⟩
      have start : "control_plane.event:".toList <+: entry.action.toList := isEvent.1
      rw [action] at start
      exact absurd start (by decide)
  | connector =>
      refine ⟨_, rfl, fun isEvent => ?_⟩
      have target : "control_plane_connector" = "control_plane_project" := isEvent.2.1
      exact absurd target (by decide)
  | server =>
      refine ⟨_, rfl, fun isEvent => ?_⟩
      have target : "control_plane_mcp_server" = "control_plane_project" := isEvent.2.1
      exact absurd target (by decide)
  | emergencyStop now stamp actorId active reason value entry system =>
      refine ⟨_, rfl, fun isEvent => ?_⟩
      exact absurd (system.symm.trans isEvent.2.1) (by decide)
  | _ =>
      refine ⟨_, rfl, fun isEvent => ?_⟩
      obtain ⟨-, -, rfl⟩ := isEvent
      exact other rfl

/-- What holds of every project in every state of a run. -/
structure ReconciliationInvariant (interpreter : Interpreter) (world : RegistryWorld) : Prop where
  keyed : Table.Keyed (·.key) world.db.runtimeFlags
  pointers : ∀ projectId, requireNonempty projectId "project_id" = .ok projectId →
    ∃ events pointer, PointerInvariant interpreter world.db projectId events pointer

namespace ReconciliationInvariant

variable {interpreter : Interpreter} {world : RegistryWorld}

theorem start (store : Database) (migratedAt : String) :
    ReconciliationInvariant interpreter (RegistryWorld.start store migratedAt) where
  keyed := List.nodup_singleton _
  pointers projectId _ := by
    exact ⟨[], SharedStatePointer.initial projectId, rfl, rfl, rfl, trivial, rfl, rfl,
      .inl ⟨RegistryWorld.registryValue_start store migratedAt _, rfl⟩⟩

theorem step (invariant : ReconciliationInvariant interpreter world)
    (call : RegistryCall interpreter) : ReconciliationInvariant interpreter (world.step call) := by
  have move := world.step_cases invariant.keyed call
  generalize world.step call = next at move
  cases move with
  | kept call checked => exact ⟨invariant.keyed, invariant.pointers⟩
  | committed write next checked enabled step =>
      refine ⟨step.keyed invariant.keyed, fun projectId normalized => ?_⟩
      obtain ⟨events, pointer, held⟩ := invariant.pointers projectId normalized
      by_cases about : write.key = some (.sharedState projectId)
      · cases step with
        | logged now stamp event built current found applied =>
            cases about
            have same : current = pointer :=
              Except.ok.inj (found.symm.trans (held.current normalized))
            subst same
            exact ⟨_, _, held.logged_step applied⟩
        | reconciled now stamp event built current after found applied changed =>
            cases about
            have same : current = pointer :=
              Except.ok.inj (found.symm.trans (held.current normalized))
            subst same
            exact ⟨_, _, held.reconciled_step built applied changed⟩
        | _ => cases about
      · obtain ⟨row, appended, other⟩ := step.not_projectEvent about
        exact ⟨events, pointer, held.kept appended other (step.kept about)⟩

end ReconciliationInvariant

end VoodooOne
