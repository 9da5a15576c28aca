import VoodooOne.Evidence.Chain

/-!
# Current permission

Permission is decided on the users, workspaces and memberships as they are in the database at that
moment.
-/

namespace VoodooOne

def FlagValue.text : FlagValue → String
  | .word text => text
  | .record value => canonicalJson value

namespace Database

/-- `OperationalSafetyService.is_active`. -/
def emergencyStopActive (db : Database) : Bool :=
  match Table.lookup (·.key) db.runtimeFlags "emergency_stop" with
  | none => false
  | some row => row.value.text.toLower = "true"

/-- An insertion into `runtime_flags` that updates the row of the same key. -/
def upsertFlag (db : Database) (row : RuntimeFlagRow) : Database :=
  db.setRuntimeFlags (match Table.lookup (·.key) db.runtimeFlags row.key with
    | none => db.runtimeFlags ++ [row]
    | some _ => Table.replace (·.key) db.runtimeFlags row)

theorem lookup_upsertFlag (db : Database) (row : RuntimeFlagRow) (wanted : String) :
    Table.lookup (·.key) (db.upsertFlag row).runtimeFlags wanted =
      if wanted = row.key then some row else Table.lookup (·.key) db.runtimeFlags wanted := by
  rw [upsertFlag, setRuntimeFlags_runtimeFlags]
  cases found : Table.lookup (·.key) db.runtimeFlags row.key with
  | none =>
      rw [Table.lookup_append]
      by_cases same : wanted = row.key
      · subst same
        rw [found, Option.none_or, if_pos rfl]
      · rw [if_neg (Ne.symm same), Option.or_none, if_neg same]
  | some old => exact Table.lookup_replace_found found

theorem keyed_upsertFlag {db : Database} (keyed : Table.Keyed (·.key) db.runtimeFlags)
    (row : RuntimeFlagRow) : Table.Keyed (·.key) (db.upsertFlag row).runtimeFlags := by
  rw [upsertFlag, setRuntimeFlags_runtimeFlags]
  cases found : Table.lookup (·.key) db.runtimeFlags row.key with
  | none => exact keyed.append (Table.lookup_eq_none.mp found)
  | some old => exact keyed.replace

/-- `OperationalSafetyService.set_emergency_stop`; the stamp is that of the audit event. -/
def setEmergencyStop (db : Database) (sha256 : String → String) (now : String) (stamp : Stamp)
    (actorId : String) (active : Bool) (reason : String) : Except Raised Database :=
  (db.upsertFlag ⟨"emergency_stop", .word (if active then "true" else "false"), actorId,
    now⟩).appendAudit sha256 stamp
    { actorId
      action := if active then "system.emergency_stop.activate" else "system.emergency_stop.clear"
      targetType := "system"
      targetId := "runtime"
      payload := .object [("reason", .str reason)] }

end Database

def rolePermissions : List (String × List String) :=
  [("viewer", ["read"]),
    ("developer", ["read", "change.write"]),
    ("operator", ["read", "approval.review", "execution.run"]),
    ("security_reviewer",
      ["read", "approval.review", "evidence.read", "emergency.control", "execution.recover"]),
    ("auditor", ["read", "evidence.read"]),
    ("administrator", ["*"])]

/-- Whether a set of permissions includes one. -/
def permitsAll (permissions : List String) (permission : String) : Bool :=
  permissions.contains "*" || permissions.contains permission

structure PermissionQuery where
  (actorId workspaceId environment permission : String)
deriving DecidableEq, Repr

def PermissionQuery.postInit (query : PermissionQuery) : Except Raised Unit := do
  let _ ← requireText (.str query.actorId) "actor_id"
  let _ ← requireText (.str query.workspaceId) "workspace_id"
  let _ ← requireText (.str query.permission) "permission"
  raiseIf (query.environment ∉ validEnvironments) (valueError "environment is invalid")

structure PermissionDecision where
  (actorId workspaceId environment permission : String)
  granted : Bool
  (reason authorityRevision scopeModel decisionDigest : String)
deriving DecidableEq, Repr

namespace PermissionDecision

def claimsWithoutDigest (decision : PermissionDecision) : Json :=
  .object [("decision_type", .str "permission-decision/v1"),
    ("actor_id", .str decision.actorId),
    ("workspace_id", .str decision.workspaceId),
    ("environment", .str decision.environment),
    ("permission", .str decision.permission),
    ("granted", .bool decision.granted),
    ("reason", .str decision.reason),
    ("authority_revision", .str decision.authorityRevision),
    ("scope_model", .str decision.scopeModel)]

def postInit (sha256 : String → String) (decision : PermissionDecision) : Except Raised Unit := do
  let _ ← requireText (.str decision.actorId) "actor_id"
  let _ ← requireText (.str decision.workspaceId) "workspace_id"
  let _ ← requireText (.str decision.permission) "permission"
  let _ ← requireText (.str decision.reason) "reason"
  let _ ← requireText (.str decision.authorityRevision) "authority_revision"
  let _ ← requireText (.str decision.scopeModel) "scope_model"
  raiseIf (decision.environment ∉ validEnvironments) (valueError "environment is invalid")
  raiseIf (¬IsDigest decision.decisionDigest)
    (valueError "decision_digest must be a lowercase SHA-256 digest")
  raiseIf (decision.decisionDigest ≠ digestOf sha256 decision.claimsWithoutDigest)
    (valueError "decision_digest does not match permission decision")

def create (sha256 : String → String) (query : PermissionQuery) (granted : Bool)
    (reason authorityRevision scopeModel : String) : Except Raised PermissionDecision := do
  let draft : PermissionDecision := ⟨query.actorId, query.workspaceId, query.environment,
    query.permission, granted, reason, authorityRevision, scopeModel, ""⟩
  let decision := { draft with decisionDigest := digestOf sha256 draft.claimsWithoutDigest }
  decision.postInit sha256
  return decision

end PermissionDecision

def databasePermissionScopeModel : String := "database-active-user-workspace-membership/v2"

namespace Database

def membership (db : Database) (workspaceId userId : String) : Option WorkspaceMembershipRow :=
  db.workspaceMemberships.find? fun row => row.workspaceId = workspaceId ∧ row.userId = userId

/-- Whether the current rows grant the permission, and why. -/
def currentPermission (db : Database) (query : PermissionQuery) : Bool × String :=
  match Table.lookup (·.id) db.users query.actorId with
  | none => (false, "ACTOR_NOT_FOUND")
  | some user =>
      if !user.active then (false, "ACTOR_INACTIVE")
      else match rolePermissions.lookup user.role with
        | none => (false, "ACTOR_ROLE_INVALID")
        | some permissions =>
            match Table.lookup (·.id) db.workspaces query.workspaceId with
            | none => (false, "WORKSPACE_NOT_FOUND")
            | some workspace =>
                if workspace.environment ≠ query.environment then
                  (false, "WORKSPACE_ENVIRONMENT_MISMATCH")
                else if db.membership query.workspaceId query.actorId = none then
                  (false, "WORKSPACE_MEMBERSHIP_REQUIRED")
                else if permitsAll permissions query.permission then
                  (true, "DATABASE_ROLE_PERMISSION_GRANTED")
                else (false, "DATABASE_ROLE_PERMISSION_DENIED")

/-- `decide_database_permission_on_connection`. -/
def decideDatabasePermission (db : Database) (sha256 : String → String) (query : PermissionQuery)
    (authorityRevision : String) : Except Raised PermissionDecision := do
  let revision ← requireText (.str authorityRevision) "authority_revision"
  let (granted, reason) := db.currentPermission query
  PermissionDecision.create sha256 query granted reason revision databasePermissionScopeModel

/-- The actor is active, has a role with the permission and is a member of the workspace, whose
environment is the one asked for. -/
def Permits (db : Database) (query : PermissionQuery) : Prop :=
  (∃ user ∈ db.users, user.id = query.actorId ∧ user.active = true ∧
      ∃ permissions, rolePermissions.lookup user.role = some permissions ∧
        permitsAll permissions query.permission = true) ∧
    (∃ workspace ∈ db.workspaces, workspace.id = query.workspaceId ∧
      workspace.environment = query.environment) ∧
    ∃ membership ∈ db.workspaceMemberships, membership.workspaceId = query.workspaceId ∧
      membership.userId = query.actorId

theorem membership_of_ne_none {db : Database} {workspaceId userId : String}
    (found : db.membership workspaceId userId ≠ none) :
    ∃ row ∈ db.workspaceMemberships, row.workspaceId = workspaceId ∧ row.userId = userId := by
  obtain ⟨row, isRow⟩ := Option.ne_none_iff_exists'.mp found
  have matched := List.find?_some isRow
  simp only [decide_eq_true_eq] at matched
  exact ⟨row, List.mem_of_find?_eq_some isRow, matched⟩

theorem permits_of_currentPermission {db : Database} {query : PermissionQuery}
    (granted : (db.currentPermission query).1 = true) : db.Permits query := by
  unfold currentPermission at granted
  split at granted
  · cases granted
  · next user isUser =>
    obtain ⟨userMember, userId⟩ := Table.mem_of_lookup isUser
    split at granted
    · cases granted
    · next active =>
      split at granted
      · cases granted
      · next permissions isRole =>
        split at granted
        · cases granted
        · next workspace isWorkspace =>
          obtain ⟨workspaceMember, workspaceId⟩ := Table.mem_of_lookup isWorkspace
          split at granted
          · cases granted
          · next environment =>
            split at granted
            · cases granted
            · next member =>
              split at granted
              · next permitted =>
                refine ⟨⟨user, userMember, userId, ?_, permissions, isRole, permitted⟩,
                  ⟨workspace, workspaceMember, workspaceId, not_not.mp environment⟩,
                  membership_of_ne_none member⟩
                simpa using active
              · cases granted

theorem decideDatabasePermission_eq_ok {db : Database} {sha256 : String → String}
    {query : PermissionQuery} {authorityRevision : String} {decision : PermissionDecision}
    (decided : db.decideDatabasePermission sha256 query authorityRevision = .ok decision) :
    decision.granted = (db.currentPermission query).1 := by
  simp only [decideDatabasePermission, PermissionDecision.create, bind_eq_ok, pure_eq_ok]
    at decided
  obtain ⟨_, _, _, _, rfl⟩ := decided
  rfl

end Database

end VoodooOne
