import VoodooOne.Evidence.Chain
import VoodooOne.Foundation.Interpreter
import VoodooOne.Library.Transaction

/-!
# Members over runs

A workspace that has an owner keeps one, each user has one membership in a workspace, and the
memberships are what the logged changes lead to.
-/

namespace VoodooOne

/-- What one call draws from outside. -/
structure WorkspaceSupplies where
  (workspaceId now : String)
  (workspaceStamp memberStamp : Stamp)

namespace WorkspaceService

def workspaceOwner : String := "owner"

def workspaceMember : String := "member"

def addAction : String := "workspace.member.add"

def removeAction : String := "workspace.member.remove"

def workspaceEntry (actorId workspaceId name environment : String) : AuditEntry where
  actorId
  action := "workspace.create"
  targetType := "workspace"
  targetId := workspaceId
  payload := .object [("name", .str name), ("environment", .str environment)]

def addEntry (row : WorkspaceMembershipRow) : AuditEntry where
  actorId := row.createdBy
  action := addAction
  targetType := "workspace_membership"
  targetId := row.workspaceId ++ ":" ++ row.userId
  payload := .object [("workspace_id", .str row.workspaceId), ("user_id", .str row.userId),
    ("membership_role", .str row.membershipRole)]

/-- The event of a removed membership. -/
def removeEntry (actorId workspaceId userId : String) : AuditEntry where
  actorId
  action := removeAction
  targetType := "workspace_membership"
  targetId := workspaceId ++ ":" ++ userId
  payload := .object [("workspace_id", .str workspaceId), ("user_id", .str userId)]

/-- A user who is there and active, or an exception. -/
def requireActive (db : Database) (userId message : String) : Except Raised UserRow := do
  let user ← orRaise ⟨.permissionError, message⟩ (Table.lookup (·.id) db.users userId)
  raiseIf (user.active = false) ⟨.permissionError, message⟩
  return user

variable (sha256 : String → String) (supplies : WorkspaceSupplies)

def createWorkspace (actorId name environment : String) (db : Database) :
    Except Raised (WorkspaceRow × Database) := do
  raiseIf (environment ∉ validEnvironments) (valueError "unknown environment")
  let _ ← requireActive db actorId "workspace creator must be an active user"
  let created ← db.insertWorkspace
    ⟨supplies.workspaceId, strip name, environment, supplies.now⟩
  let owner : WorkspaceMembershipRow :=
    ⟨supplies.workspaceId, actorId, workspaceOwner, actorId, supplies.now⟩
  let owned ← created.insertMembership owner
  let logged ← owned.appendAudit sha256 supplies.workspaceStamp
    (workspaceEntry actorId supplies.workspaceId name environment)
  let audited ← logged.appendAudit sha256 supplies.memberStamp (addEntry owner)
  return (⟨supplies.workspaceId, name, environment, supplies.now⟩, audited)

def requireMembershipManager (db : Database) (actorId workspaceId : String) :
    Except Raised Unit := do
  let actor ← requireActive db actorId "workspace membership actor must be active"
  raiseIf (actor.role ≠ "administrator" ∧ ∀ membership ∈ db.selectMembership workspaceId actorId,
        membership.membershipRole ≠ workspaceOwner)
    ⟨.permissionError, "workspace membership changes require owner or administrator"⟩

def addMember (actorId workspaceId userId membershipRole : String) (db : Database) :
    Except Raised (WorkspaceMembershipRow × Database) := do
  raiseIf (membershipRole ∉ [workspaceOwner, workspaceMember])
    (valueError "unknown workspace membership role")
  raiseIf (Table.lookup (·.id) db.workspaces workspaceId = none)
    ⟨.lookupError, "workspace not found"⟩
  requireMembershipManager db actorId workspaceId
  let _ ← requireActive db userId "workspace member must be an active user"
  raiseIf (db.selectMembership workspaceId userId ≠ none)
    (valueError "workspace membership already exists")
  let row : WorkspaceMembershipRow := ⟨workspaceId, userId, membershipRole, actorId, supplies.now⟩
  let added ← db.insertMembership row
  let audited ← added.appendAudit sha256 supplies.memberStamp (addEntry row)
  return (row, audited)

def removeMember (actorId workspaceId userId : String) (db : Database) :
    Except Raised (Unit × Database) := do
  requireMembershipManager db actorId workspaceId
  let membership ← orRaise ⟨.lookupError, "workspace membership not found"⟩
    (db.selectMembership workspaceId userId)
  raiseIf (membership.membershipRole = workspaceOwner ∧ db.countOwners workspaceId ≤ 1)
    ⟨.permissionError, "cannot remove the last workspace owner"⟩
  let (deleted, removed) := db.deleteMembership workspaceId userId
  raiseIf (deleted = none) ⟨.lookupError, "workspace membership not found"⟩
  let audited ← removed.appendAudit sha256 supplies.memberStamp
    (removeEntry actorId workspaceId userId)
  return ((), audited)

end WorkspaceService

open WorkspaceService

/-- One call: a call of the service, an audit event of another kind, or any change of other
tables. -/
inductive WorkspaceCall where
  | createWorkspace (supplies : WorkspaceSupplies) (actorId name environment : String)
  | addMember (supplies : WorkspaceSupplies) (actorId workspaceId userId membershipRole : String)
  | removeMember (supplies : WorkspaceSupplies) (actorId workspaceId userId : String)
  | audit (stamp : Stamp) (entry : AuditEntry) (other : entry.action ∉ [addAction, removeAction])
  | elsewhere (other : Database)

namespace WorkspaceCall

/-- Whose memberships a call may change, and who calls: the workspace and the principal. -/
def subject : WorkspaceCall → Option (String × String)
  | createWorkspace supplies actorId _ _ => some (supplies.workspaceId, actorId)
  | addMember _ actorId workspaceId _ _ => some (workspaceId, actorId)
  | removeMember _ actorId workspaceId _ => some (workspaceId, actorId)
  | audit _ _ _ | elsewhere _ => none

def body (sha256 : String → String) : WorkspaceCall → Database → Except Raised (Unit × Database)
  | createWorkspace supplies actorId name environment, db => do
      let (_, next) ← WorkspaceService.createWorkspace sha256 supplies actorId name environment db
      return ((), next)
  | addMember supplies actorId workspaceId userId membershipRole, db => do
      let (_, next) ← WorkspaceService.addMember sha256 supplies actorId workspaceId userId
        membershipRole db
      return ((), next)
  | removeMember supplies actorId workspaceId userId, db =>
      WorkspaceService.removeMember sha256 supplies actorId workspaceId userId db
  | audit stamp entry _, db => do
      let next ← db.appendAudit sha256 stamp entry
      return ((), next)
  | elsewhere other, db => .ok ((), ((other.setWorkspaces db.workspaces).setWorkspaceMemberships
      db.workspaceMemberships).setAuditEvents db.auditEvents)

def step (sha256 : String → String) (db : Database) (call : WorkspaceCall) : Database :=
  (Transaction.commit (call.body sha256) db).2

end WorkspaceCall

/-- A membership as the log shows it. -/
structure Member where
  (workspaceId userId membershipRole createdBy : String)
deriving DecidableEq

def WorkspaceMembershipRow.member (row : WorkspaceMembershipRow) : Member :=
  ⟨row.workspaceId, row.userId, row.membershipRole, row.createdBy⟩

def Member.replay (members : List Member) (event : AuditEventRow) : List Member :=
  if event.action = addAction then members ++ [⟨event.field "workspace_id", event.field "user_id",
    event.field "membership_role", event.actorId⟩]
  else if event.action = removeAction then members.filter fun member =>
    (member.workspaceId, member.userId) ≠ (event.field "workspace_id", event.field "user_id")
  else members

namespace Member

theorem replay_add (members : List Member) (row : WorkspaceMembershipRow) {event : AuditEventRow}
    (action : event.action = addAction) (actor : event.actorId = row.createdBy)
    (payload : event.payload = (addEntry row).payload) :
    replay members event = members ++ [row.member] := by
  have distinct : ["workspace_id", "user_id", "membership_role"].Nodup := by decide
  rw [replay, if_pos action, actor,
    AuditEventRow.field_of_object payload distinct (List.mem_cons_self ..),
    AuditEventRow.field_of_object payload distinct (List.mem_cons_of_mem _ (List.mem_cons_self ..)),
    AuditEventRow.field_of_object payload distinct
      (List.mem_cons_of_mem _ (List.mem_cons_of_mem _ (List.mem_cons_self ..)))]
  rfl

theorem replay_remove (members : List Member) {actorId workspaceId userId : String}
    {event : AuditEventRow} (action : event.action = removeAction)
    (payload : event.payload = (removeEntry actorId workspaceId userId).payload) :
    replay members event = members.filter fun member =>
      (member.workspaceId, member.userId) ≠ (workspaceId, userId) := by
  have distinct : ["workspace_id", "user_id"].Nodup := by decide
  have other : event.action ≠ addAction := by
    rw [action]
    decide
  rw [replay, if_neg other, if_pos action,
    AuditEventRow.field_of_object payload distinct (List.mem_cons_self ..),
    AuditEventRow.field_of_object payload distinct (List.mem_cons_of_mem _ (List.mem_cons_self ..))]

theorem replay_other (members : List Member) {event : AuditEventRow}
    (other : event.action ∉ [addAction, removeAction]) : replay members event = members := by
  rw [List.mem_cons, List.mem_singleton, not_or] at other
  rw [replay, if_neg other.1, if_neg other.2]

end Member

namespace Database

def Owned (db : Database) (workspaceId : String) : Prop :=
  ∃ row ∈ db.workspaceMemberships, row.workspaceId = workspaceId ∧
    row.membershipRole = workspaceOwner

/-- An active principal is an administrator or an owner of a workspace. -/
def Manages (db : Database) (workspaceId actorId : String) : Prop :=
  ∃ user ∈ db.users, user.id = actorId ∧ user.active = true ∧
    (user.role = "administrator" ∨ ∃ row ∈ db.workspaceMemberships,
      row.key = (workspaceId, actorId) ∧ row.membershipRole = workspaceOwner)

end Database

/-- What a call that commits does to the memberships. -/
inductive MembershipStep (db next : Database) : Option (String × String) → Prop where
  | other (subject : Option (String × String)) (events : List AuditEventRow)
      (workspaces : next.workspaces = db.workspaces)
      (memberships : next.workspaceMemberships = db.workspaceMemberships)
      (logged : next.auditEvents = db.auditEvents ++ events)
      (others : ∀ event ∈ events, event.action ∉ [addAction, removeAction]) :
      MembershipStep db next subject
  | create (workspace : WorkspaceRow) (owner : WorkspaceMembershipRow)
      (creation event : AuditEventRow) (actorId : String)
      (users : next.users = db.users)
      (active : ∃ user ∈ db.users, user.id = actorId ∧ user.active = true)
      (fresh : ∀ other ∈ db.workspaces, other.id ≠ workspace.id)
      (workspaces : next.workspaces = db.workspaces ++ [workspace])
      (owns : owner.key = (workspace.id, actorId) ∧ owner.membershipRole = workspaceOwner)
      (apart : ∀ other ∈ db.workspaceMemberships, other.key ≠ owner.key)
      (memberships : next.workspaceMemberships = db.workspaceMemberships ++ [owner])
      (logged : next.auditEvents = db.auditEvents ++ [creation, event])
      (other : creation.action ∉ [addAction, removeAction])
      (shows : event.action = addAction ∧ event.actorId = owner.createdBy ∧
        event.payload = (addEntry owner).payload) :
      MembershipStep db next (some (workspace.id, actorId))
  | add (row : WorkspaceMembershipRow) (event : AuditEventRow) (workspaceId actorId : String)
      (manages : db.Manages workspaceId actorId)
      (own : row.workspaceId = workspaceId)
      (apart : ∀ other ∈ db.workspaceMemberships, other.key ≠ row.key)
      (workspaces : next.workspaces = db.workspaces)
      (memberships : next.workspaceMemberships = db.workspaceMemberships ++ [row])
      (logged : next.auditEvents = db.auditEvents ++ [event])
      (shows : event.action = addAction ∧ event.actorId = row.createdBy ∧
        event.payload = (addEntry row).payload) :
      MembershipStep db next (some (workspaceId, actorId))
  | remove (row : WorkspaceMembershipRow) (event : AuditEventRow)
      (workspaceId userId actorId : String)
      (manages : db.Manages workspaceId actorId)
      (stored : row ∈ db.workspaceMemberships) (own : row.key = (workspaceId, userId))
      (kept : row.membershipRole = workspaceOwner → 1 < db.countOwners workspaceId)
      (workspaces : next.workspaces = db.workspaces)
      (memberships : next.workspaceMemberships =
        db.workspaceMemberships.filter (·.key ≠ (workspaceId, userId)))
      (logged : next.auditEvents = db.auditEvents ++ [event])
      (shows : event.action = removeAction ∧
        event.payload = (removeEntry actorId workspaceId userId).payload) :
      MembershipStep db next (some (workspaceId, actorId))

theorem requireActive_eq_ok {db : Database} {userId message : String} {user : UserRow}
    (active : requireActive db userId message = .ok user) :
    user ∈ db.users ∧ user.id = userId ∧ user.active = true := by
  simp only [requireActive, bind_eq_ok, orRaise_eq_ok, raiseIf_eq_ok, pure_eq_ok] at active
  obtain ⟨_, found, _, isActive, rfl⟩ := active
  obtain ⟨member, same⟩ := Table.mem_of_lookup found
  exact ⟨member, same, by simpa using isActive⟩

theorem requireMembershipManager_eq_ok {db : Database} {actorId workspaceId : String}
    {result : Unit} (passed : requireMembershipManager db actorId workspaceId = .ok result) :
    db.Manages workspaceId actorId := by
  simp only [requireMembershipManager, bind_eq_ok, raiseIf_eq_ok] at passed
  obtain ⟨user, isActive, allowed⟩ := passed
  obtain ⟨member, same, active⟩ := requireActive_eq_ok isActive
  refine ⟨user, member, same, active, ?_⟩
  by_cases administrator : user.role = "administrator"
  · exact .inl administrator
  · right
    by_contra noOwner
    refine allowed ⟨administrator, fun row found owner => noOwner ?_⟩
    obtain ⟨stored, key⟩ := Table.mem_of_lookup found
    exact ⟨row, stored, key, owner⟩

theorem WorkspaceCall.step_of_ok {sha256 : String → String} {db next : Database}
    {call : WorkspaceCall} (returned : call.body sha256 db = .ok ((), next)) :
    MembershipStep db next call.subject := by
  cases call with
  | createWorkspace supplies actorId name environment =>
      simp only [body, WorkspaceService.createWorkspace, bind_eq_ok, pure_eq_ok, Prod.mk.injEq,
        true_and] at returned
      obtain ⟨_, ⟨_, -, user, isActive, _, workspace, _, member, _, logged, _, audited, rfl⟩,
        rfl⟩ :=
        returned
      obtain ⟨stored, same, active⟩ := requireActive_eq_ok isActive
      obtain ⟨rfl, fresh⟩ := Database.insertWorkspace_eq_ok workspace
      obtain ⟨rfl, apart⟩ := Database.insertMembership_eq_ok member
      obtain ⟨rfl, -⟩ := Database.appendAudit_eq_ok logged
      obtain ⟨rfl, -⟩ := Database.appendAudit_eq_ok audited
      refine .create ⟨supplies.workspaceId, strip name, environment, supplies.now⟩
        ⟨supplies.workspaceId, actorId, workspaceOwner, actorId, supplies.now⟩ _ _ actorId rfl
        ⟨user, stored, same, active⟩ fresh rfl ⟨rfl, rfl⟩ apart rfl (List.append_assoc _ _ _) ?_
        ⟨rfl, rfl, rfl⟩
      exact (by decide : "workspace.create" ∉ [addAction, removeAction])
  | addMember supplies actorId workspaceId userId membershipRole =>
      simp only [body, WorkspaceService.addMember, bind_eq_ok, pure_eq_ok, Prod.mk.injEq,
        true_and] at returned
      obtain ⟨_, ⟨_, -, _, -, _, manager, _, -, _, -, _, member, _, audited, rfl⟩, rfl⟩ := returned
      obtain ⟨rfl, apart⟩ := Database.insertMembership_eq_ok member
      obtain ⟨rfl, -⟩ := Database.appendAudit_eq_ok audited
      exact .add ⟨workspaceId, userId, membershipRole, actorId, supplies.now⟩ _ workspaceId actorId
        (requireMembershipManager_eq_ok manager) rfl apart rfl rfl rfl ⟨rfl, rfl, rfl⟩
  | removeMember supplies actorId workspaceId userId =>
      simp only [body, WorkspaceService.removeMember, bind_eq_ok, orRaise_eq_ok, raiseIf_eq_ok,
        pure_eq_ok, Prod.mk.injEq, true_and] at returned
      obtain ⟨_, manager, row, found, _, kept, _, -, _, audited, rfl⟩ := returned
      obtain ⟨stored, key⟩ := Table.mem_of_lookup found
      obtain ⟨rfl, -⟩ := Database.appendAudit_eq_ok audited
      refine .remove row _ workspaceId userId actorId (requireMembershipManager_eq_ok manager)
        stored key (fun owner => ?_) rfl rfl rfl ⟨rfl, rfl⟩
      exact not_le.mp fun few => kept ⟨owner, few⟩
  | audit stamp entry other =>
      simp only [body, bind_eq_ok, pure_eq_ok, Prod.mk.injEq, true_and] at returned
      obtain ⟨_, audited, rfl⟩ := returned
      obtain ⟨rfl, -⟩ := Database.appendAudit_eq_ok audited
      exact .other _ [_] rfl rfl rfl (List.forall_mem_singleton.mpr other)
  | elsewhere other =>
      cases returned
      exact .other _ [] rfl rfl (List.append_nil _).symm (List.forall_mem_nil _)

/-- A principal manages a workspace already, or creates it and manages it from then on. -/
def Commands (db next : Database) (workspaceId actorId : String) : Prop :=
  db.Manages workspaceId actorId ∨
    ((∀ other ∈ db.workspaces, other.id ≠ workspaceId) ∧ next.Manages workspaceId actorId)

theorem MembershipStep.commanded {db next : Database} {subject : Option (String × String)}
    (step : MembershipStep db next subject)
    (changed : next.workspaceMemberships ≠ db.workspaceMemberships) :
    ∃ workspaceId actorId, subject = some (workspaceId, actorId) ∧
      Commands db next workspaceId actorId ∧
      ∀ row : WorkspaceMembershipRow, row.workspaceId ≠ workspaceId →
        (row ∈ next.workspaceMemberships ↔ row ∈ db.workspaceMemberships) := by
  cases step with
  | other subject events workspaces memberships => exact absurd memberships changed
  | create workspace owner creation event actorId users active fresh workspaces owns apart
      memberships logged other shows =>
      obtain ⟨user, stored, same, isActive⟩ := active
      refine ⟨workspace.id, actorId, rfl, .inr ⟨fresh, user, users ▸ stored, same, isActive, .inr
        ⟨owner, ?_, owns⟩⟩, fun row elsewhere => ?_⟩
      · rw [memberships]
        exact List.mem_append_right _ (List.mem_singleton_self _)
      · have differ : row ≠ owner := fun same =>
          elsewhere ((congrArg WorkspaceMembershipRow.workspaceId same).trans
            (congrArg Prod.fst owns.1))
        rw [memberships, List.mem_append, List.mem_singleton, or_iff_left differ]
  | add added event workspaceId actorId manages own apart workspaces memberships logged shows =>
      refine ⟨workspaceId, actorId, rfl, .inl manages, fun row elsewhere => ?_⟩
      have differ : row ≠ added := fun same =>
        elsewhere ((congrArg WorkspaceMembershipRow.workspaceId same).trans own)
      rw [memberships, List.mem_append, List.mem_singleton, or_iff_left differ]
  | remove removed event workspaceId userId actorId manages stored own kept workspaces memberships
      logged shows =>
      refine ⟨workspaceId, actorId, rfl, .inl manages, fun row elsewhere => ?_⟩
      have differ : row.key ≠ (workspaceId, userId) := fun same =>
        elsewhere (congrArg Prod.fst same)
      rw [memberships, List.mem_filter, decide_eq_true_eq, and_iff_left differ]

/-- A database in which no user has two memberships in one workspace, as its key guarantees. -/
structure WorkspaceStore where
  db : Database
  keyed : Table.Keyed (·.key) db.workspaceMemberships

/-- What holds of every database that calls reach from a first one. -/
structure MembersInvariant (start db : Database) : Prop where
  keyed : Table.Keyed (·.key) db.workspaceMemberships
  /-- A workspace without an owner has had none from the start. -/
  owned : ∀ workspace ∈ db.workspaces, db.Owned workspace.id ∨
    ((∃ other ∈ start.workspaces, other.id = workspace.id) ∧ ¬start.Owned workspace.id)
  logged : ∃ events, db.auditEvents = start.auditEvents ++ events ∧
    db.workspaceMemberships.map (·.member) =
      events.foldl Member.replay (start.workspaceMemberships.map (·.member))

/-- Other owners stay when one membership of a workspace with two owners is removed. -/
theorem Database.Owned.remove {db next : Database} {row : WorkspaceMembershipRow}
    {workspaceId userId other : String} (owned : db.Owned other)
    (keyed : Table.Keyed (·.key) db.workspaceMemberships)
    (stored : row ∈ db.workspaceMemberships) (own : row.key = (workspaceId, userId))
    (kept : row.membershipRole = workspaceOwner → 1 < db.countOwners workspaceId)
    (memberships : next.workspaceMemberships =
      db.workspaceMemberships.filter (·.key ≠ (workspaceId, userId))) : next.Owned other := by
  obtain ⟨owner, member, isWorkspace, isOwner⟩ := owned
  by_cases removed : owner.key = (workspaceId, userId)
  · -- the removed row is this owner, so the count shows a second one
    obtain rfl : owner = row := keyed.unique member stored (removed.trans own.symm)
    obtain rfl : other = workspaceId := isWorkspace.symm.trans (congrArg Prod.fst own)
    by_contra none
    have single : db.countOwners other = 1 := by
      refine keyed.countP_eq_one member fun candidate there => ?_
      rw [decide_eq_true_eq]
      constructor
      · rintro ⟨same, role⟩
        by_contra apart
        refine none ⟨candidate, ?_, same, role⟩
        rw [memberships]
        exact List.mem_filter.mpr ⟨there, decide_eq_true (own ▸ apart)⟩
      · intro same
        obtain rfl := keyed.unique there member same
        exact ⟨isWorkspace, isOwner⟩
    have two := kept isOwner
    omega
  · refine ⟨owner, ?_, isWorkspace, isOwner⟩
    rw [memberships]
    exact List.mem_filter.mpr ⟨member, decide_eq_true removed⟩

namespace MembersInvariant

variable {start db next : Database}

theorem refl (keyed : Table.Keyed (·.key) start.workspaceMemberships) :
    MembersInvariant start start where
  keyed
  owned workspace member := by
    by_cases owned : start.Owned workspace.id
    · exact .inl owned
    · exact .inr ⟨⟨workspace, member, rfl⟩, owned⟩
  logged := ⟨[], (List.append_nil _).symm, rfl⟩

theorem extend (invariant : MembersInvariant start db) {later : List AuditEventRow}
    (logged : next.auditEvents = db.auditEvents ++ later)
    (replayed : next.workspaceMemberships.map (·.member) =
      later.foldl Member.replay (db.workspaceMemberships.map (·.member))) :
    ∃ events, next.auditEvents = start.auditEvents ++ events ∧
      next.workspaceMemberships.map (·.member) =
        events.foldl Member.replay (start.workspaceMemberships.map (·.member)) := by
  obtain ⟨events, isLog, isFold⟩ := invariant.logged
  refine ⟨events ++ later, ?_, ?_⟩
  · rw [logged, isLog, List.append_assoc]
  · rw [List.foldl_append, ← isFold, replayed]

theorem foldl_other {events : List AuditEventRow} {members : List Member}
    (others : ∀ event ∈ events, event.action ∉ [addAction, removeAction]) :
    events.foldl Member.replay members = members := by
  induction events with
  | nil => rfl
  | cons event events induction =>
      rw [List.forall_mem_cons] at others
      rw [List.foldl_cons, Member.replay_other members others.1]
      exact induction others.2

/-- An added row takes no owner away. -/
theorem owned_append (invariant : MembersInvariant start db) {row : WorkspaceMembershipRow}
    (memberships : next.workspaceMemberships = db.workspaceMemberships ++ [row])
    {workspace : WorkspaceRow} (member : workspace ∈ db.workspaces) :
    next.Owned workspace.id ∨
      ((∃ other ∈ start.workspaces, other.id = workspace.id) ∧ ¬start.Owned workspace.id) := by
  refine (invariant.owned workspace member).imp_left fun ⟨owner, stored, same, role⟩ => ?_
  refine ⟨owner, ?_, same, role⟩
  rw [memberships]
  exact List.mem_append_left _ stored

protected theorem step {subject : Option (String × String)} (invariant : MembersInvariant start db)
    (step : MembershipStep db next subject) : MembersInvariant start next := by
  cases step with
  | other subject events workspaces memberships logged others =>
      have owned (id : String) : next.Owned id ↔ db.Owned id := by
        rw [Database.Owned, memberships, Database.Owned]
      refine ⟨memberships ▸ invariant.keyed, ?_, invariant.extend logged ?_⟩
      · simp only [workspaces, owned]
        exact invariant.owned
      · rw [memberships, foldl_other others]
  | create workspace owner creation event actorId users active fresh workspaces owns apart
      memberships logged other shows =>
      obtain ⟨action, actor, payload⟩ := shows
      refine ⟨memberships ▸ invariant.keyed.append apart, ?_, invariant.extend logged ?_⟩
      · rw [workspaces]
        intro candidate member
        rcases List.mem_append.mp member with old | new
        · exact invariant.owned_append memberships old
        · obtain rfl := List.mem_singleton.mp new
          refine .inl ⟨owner, ?_, congrArg Prod.fst owns.1, owns.2⟩
          rw [memberships]
          exact List.mem_append_right _ (List.mem_singleton_self _)
      · rw [List.foldl_cons, Member.replay_other _ other, List.foldl_cons,
          Member.replay_add _ owner action actor payload, List.foldl_nil, memberships,
          List.map_append, List.map_singleton]
  | add row event workspaceId actorId manages own apart workspaces memberships logged shows =>
      obtain ⟨action, actor, payload⟩ := shows
      refine ⟨memberships ▸ invariant.keyed.append apart, ?_, invariant.extend logged ?_⟩
      · rw [workspaces]
        exact fun candidate member => invariant.owned_append memberships member
      · rw [List.foldl_cons, Member.replay_add _ row action actor payload, List.foldl_nil,
          memberships, List.map_append, List.map_singleton]
  | remove row event workspaceId userId actorId manages stored own kept workspaces memberships
      logged shows =>
      obtain ⟨action, payload⟩ := shows
      refine ⟨?_, ?_, invariant.extend logged ?_⟩
      · rw [memberships]
        exact invariant.keyed.filter _
      · rw [workspaces]
        exact fun candidate member => (invariant.owned candidate member).imp_left fun owned =>
          owned.remove invariant.keyed stored own kept memberships
      · rw [List.foldl_cons, Member.replay_remove _ action payload, List.foldl_nil, memberships,
          List.filter_map]
        rfl

theorem call {sha256 : String → String} (invariant : MembersInvariant start db)
    (call : WorkspaceCall) : MembersInvariant start (WorkspaceCall.step sha256 db call) :=
  Transaction.commit_cases _ db invariant fun _ _ returned =>
    invariant.step (WorkspaceCall.step_of_ok returned)

theorem run {sha256 : String → String} (invariant : MembersInvariant start db)
    (calls : List WorkspaceCall) :
    MembersInvariant start (Transaction.run (WorkspaceCall.step sha256) db calls) :=
  Transaction.run_invariant (fun _ call held => held.call call) invariant calls

end MembersInvariant

/-- In every run a workspace that has an owner keeps one, each user has one membership in a
workspace, the memberships are the replay of the log, whoever changes a membership manages its
workspace, and a call that raises changes nothing. -/
theorem workspaceOwners_kept (sha256 : String → String) (store : WorkspaceStore)
    (calls : List WorkspaceCall) :
    let db := Transaction.run (WorkspaceCall.step sha256) store.db calls
    (∀ workspace ∈ db.workspaces, db.Owned workspace.id ∨
      ((∃ other ∈ store.db.workspaces, other.id = workspace.id) ∧ ¬store.db.Owned workspace.id)) ∧
    Table.Keyed (·.key) db.workspaceMemberships ∧
    (∃ events, db.auditEvents = store.db.auditEvents ++ events ∧
      db.workspaceMemberships.map (·.member) =
        events.foldl Member.replay (store.db.workspaceMemberships.map (·.member))) ∧
    ∀ call : WorkspaceCall,
      let outcome := Transaction.commit (call.body sha256) db
      ((∃ error, outcome.1 = .error error) → outcome.2 = db) ∧
      (outcome.2.workspaceMemberships ≠ db.workspaceMemberships →
        ∃ workspaceId actorId, call.subject = some (workspaceId, actorId) ∧
          Commands db outcome.2 workspaceId actorId ∧
          ∀ row : WorkspaceMembershipRow, row.workspaceId ≠ workspaceId →
            (row ∈ outcome.2.workspaceMemberships ↔ row ∈ db.workspaceMemberships)) := by
  intro db
  have invariant : MembersInvariant store.db db := (MembersInvariant.refl store.keyed).run calls
  refine ⟨invariant.owned, invariant.keyed, invariant.logged, fun call => ?_⟩
  refine ⟨fun ⟨error, raised⟩ => Transaction.commit_rollback raised, ?_⟩
  refine Transaction.commit_cases (motive := fun next =>
    next.workspaceMemberships ≠ db.workspaceMemberships → ∃ workspaceId actorId,
      call.subject = some (workspaceId, actorId) ∧ Commands db next workspaceId actorId ∧
        ∀ row : WorkspaceMembershipRow, row.workspaceId ≠ workspaceId →
          (row ∈ next.workspaceMemberships ↔ row ∈ db.workspaceMemberships)) _ db
    (fun changed => absurd rfl changed) fun _ next returned => ?_
  exact (WorkspaceCall.step_of_ok returned).commanded

end VoodooOne
