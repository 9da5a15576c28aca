import VoodooOne.Authority.Permission
import VoodooOne.Identity.Issuer
import VoodooOne.Library.Transaction
import VoodooOne.Schema.Identities

/-!
# Bindings over runs

Each external identity and each account has one binding at an issuer, which keeps its identity and
stays disabled once it is.  The bindings are what the logged changes lead to.
-/

namespace VoodooOne

/-- What one call draws from outside. -/
structure IdentitySupplies where
  (bindingId now : String)
  stamp : Stamp

/-- What `create_binding` returns. -/
structure CreatedBinding where
  (id provider issuer subjectDigest userId : String)
  active : Bool
  createdAt : String
deriving DecidableEq, Repr

/-- What `disable_binding` returns. -/
structure DisabledBinding where
  (id userId : String)
  active : Bool
  disabledAt : String
deriving DecidableEq, Repr

/-- What `resolve_active_binding` returns. -/
structure BoundAccount where
  (bindingId userId username role : String)
deriving DecidableEq, Repr

/-- `role in ROLE_PERMISSIONS`. -/
abbrev KnownRole (role : String) : Prop := role ∈ rolePermissions.map Prod.fst

namespace ExternalIdentityService

def createAction : String := "external_identity_binding.create"

def disableAction : String := "external_identity_binding.disable"

def validateReason (reason : String) : Except Raised String := do
  let normalized := strip reason
  raiseIf (¬(3 ≤ normalized.length ∧ normalized.length ≤ 2000))
    (valueError "external identity governance reason must contain 3 to 2000 characters")
  return normalized

def requireActiveAdministrator (db : Database) (actorId : String) : Except Raised UserRow := do
  let message := "external identity governance requires an active administrator"
  let actor ← orRaise ⟨.permissionError, message⟩ (Table.lookup (·.id) db.users actorId)
  raiseIf (actor.active = false) ⟨.permissionError, message⟩
  raiseIf (actor.role ≠ "administrator")
    ⟨.permissionError, "external identity governance requires administrator role"⟩
  return actor

def requireActiveTarget (db : Database) (userId : String) : Except Raised UserRow := do
  let target ← orRaise ⟨.lookupError, "external identity target user not found"⟩
    (Table.lookup (·.id) db.users userId)
  raiseIf (target.active = false) ⟨.permissionError, "external identity target user is inactive"⟩
  raiseIf (¬KnownRole target.role) ⟨.permissionError, "external identity target role is invalid"⟩
  return target

variable (sha256 : String → String)

def createEntry (actorId userRole reason : String) (row : ExternalIdentityBindingRow) :
    AuditEntry where
  actorId
  action := createAction
  targetType := "external_identity_binding"
  targetId := row.id
  payload := .object [("provider", .str row.provider), ("issuer", .str row.issuer),
    ("subject_digest", .str (sha256 row.subject)), ("user_id", .str row.userId),
    ("user_role", .str userRole), ("reason", .str reason)]

def disableEntry (actorId reason : String) (row : ExternalIdentityBindingRow) : AuditEntry where
  actorId
  action := disableAction
  targetType := "external_identity_binding"
  targetId := row.id
  payload := .object [("provider", .str row.provider), ("issuer", .str row.issuer),
    ("subject_digest", .str (sha256 row.subject)), ("user_id", .str row.userId),
    ("reason", .str reason)]

def createBinding (rules : UrlRules) (supplies : IdentitySupplies)
    (actorId userId provider issuer subject reason : String) (db : Database) :
    Except Raised (CreatedBinding × Database) := do
  let key ← ExternalIdentityKey.create rules provider issuer subject
  let normalizedReason ← validateReason reason
  let _ ← requireActiveAdministrator db actorId
  let target ← requireActiveTarget db userId
  raiseIf (actorId = userId)
    ⟨.permissionError, "administrators cannot bind their own external identity"⟩
  let row : ExternalIdentityBindingRow := ⟨supplies.bindingId, key.provider, key.issuer,
    key.subject, userId, true, supplies.now, none⟩
  let bound ← catching [.databaseIntegrityError] ⟨.runtimeError,
    "external identity or internal user is already bound for this issuer"⟩ (db.insertBinding row)
  let audited ← bound.appendAudit sha256 supplies.stamp
    (createEntry sha256 actorId target.role normalizedReason row)
  return (⟨row.id, row.provider, row.issuer, sha256 row.subject, userId, true, supplies.now⟩,
    audited)

def disableBinding (supplies : IdentitySupplies) (actorId bindingId reason : String)
    (db : Database) : Except Raised (DisabledBinding × Database) := do
  let normalizedReason ← validateReason reason
  let _ ← requireActiveAdministrator db actorId
  let binding ← orRaise ⟨.lookupError, "external identity binding not found"⟩
    (db.selectBinding bindingId)
  raiseIf (binding.active = false ∨ binding.disabledAt ≠ none)
    ⟨.runtimeError, "external identity binding is already disabled"⟩
  raiseIf (actorId = binding.userId)
    ⟨.permissionError, "administrators cannot disable their own external identity"⟩
  let (disabled, updated) := db.disableBinding supplies.now bindingId
  raiseIf (disabled = none) ⟨.runtimeError, "external identity binding changed during disablement"⟩
  let audited ← updated.appendAudit sha256 supplies.stamp
    (disableEntry sha256 actorId normalizedReason binding)
  return (⟨bindingId, binding.userId, false, supplies.now⟩, audited)

def resolveActiveBinding (rules : UrlRules) (provider issuer subject : String) (db : Database) :
    Except Raised BoundAccount := do
  let key ← ExternalIdentityKey.create rules provider issuer subject
  let (binding, user) ← orRaise ⟨.permissionError, "external identity is not actively bound"⟩
    (db.resolveActiveBinding (key.provider, key.issuer, key.subject))
  raiseIf (¬KnownRole user.role) ⟨.permissionError, "bound account role is invalid"⟩
  return ⟨binding.id, binding.userId, user.username, user.role⟩

end ExternalIdentityService

open ExternalIdentityService

/-- One call: a call of the service, an audit event of another kind, or any change of other
tables. -/
inductive IdentityCall where
  | create (supplies : IdentitySupplies) (actorId userId provider issuer subject reason : String)
  | disable (supplies : IdentitySupplies) (actorId bindingId reason : String)
  | audit (stamp : Stamp) (entry : AuditEntry)
    (other : entry.action ∉ [createAction, disableAction])
  | elsewhere (other : Database) (keyed : Table.Keyed (·.id) other.users)

namespace IdentityCall

def actor : IdentityCall → Option String
  | create _ actorId _ _ _ _ _ | disable _ actorId _ _ => some actorId
  | audit _ _ _ | elsewhere _ _ => none

variable (sha256 : String → String) (rules : UrlRules)

def body : IdentityCall → Database → Except Raised (Unit × Database)
  | create supplies actorId userId provider issuer subject reason, db => do
      let (_, next) ← createBinding sha256 rules supplies actorId userId provider issuer subject
        reason db
      return ((), next)
  | disable supplies actorId bindingId reason, db => do
      let (_, next) ← disableBinding sha256 supplies actorId bindingId reason db
      return ((), next)
  | audit stamp entry _, db => do
      let next ← db.appendAudit sha256 stamp entry
      return ((), next)
  | elsewhere other _, db => .ok ((), (other.setExternalIdentityBindings
      db.externalIdentityBindings).setAuditEvents db.auditEvents)

def step (db : Database) (call : IdentityCall) : Database :=
  (Transaction.commit (call.body sha256 rules) db).2

end IdentityCall

structure BindingStanding where
  (id provider issuer subjectDigest userId : String)
  active : Bool
deriving DecidableEq

def ExternalIdentityBindingRow.standing (sha256 : String → String)
    (row : ExternalIdentityBindingRow) : BindingStanding :=
  ⟨row.id, row.provider, row.issuer, sha256 row.subject, row.userId, row.active⟩

namespace BindingStanding

def disable (id : String) (standing : BindingStanding) : BindingStanding :=
  if standing.id = id then { standing with active := false } else standing

def replay (standings : List BindingStanding) (event : AuditEventRow) : List BindingStanding :=
  if event.action = createAction then standings ++ [⟨event.targetId, event.field "provider",
    event.field "issuer", event.field "subject_digest", event.field "user_id", true⟩]
  else if event.action = disableAction then standings.map (disable event.targetId)
  else standings

variable {sha256 : String → String} {row : ExternalIdentityBindingRow} {event : AuditEventRow}
  {actorId userRole reason : String}

theorem createNames_nodup :
    ["provider", "issuer", "subject_digest", "user_id", "user_role", "reason"].Nodup := by
  decide

theorem disableNames_nodup :
    ["provider", "issuer", "subject_digest", "user_id", "reason"].Nodup := by
  decide

theorem user_of_create (shows : event.Shows (createEntry sha256 actorId userRole reason row)) :
    event.field "user_id" = row.userId := by
  refine AuditEventRow.field_of_object shows.payload createNames_nodup ?_
  iterate 3 apply List.mem_cons_of_mem
  exact List.mem_cons_self ..

theorem user_of_disable (shows : event.Shows (disableEntry sha256 actorId reason row)) :
    event.field "user_id" = row.userId := by
  refine AuditEventRow.field_of_object shows.payload disableNames_nodup ?_
  iterate 3 apply List.mem_cons_of_mem
  exact List.mem_cons_self ..

theorem replay_create (standings : List BindingStanding) (active : row.active = true)
    (shows : event.Shows (createEntry sha256 actorId userRole reason row)) :
    replay standings event = standings ++ [row.standing sha256] := by
  have action : event.action = createAction := shows.action
  have target : event.targetId = row.id := shows.target
  have provider : event.field "provider" = row.provider :=
    AuditEventRow.field_of_object shows.payload createNames_nodup (List.mem_cons_self ..)
  have issuer : event.field "issuer" = row.issuer :=
    AuditEventRow.field_of_object shows.payload createNames_nodup
      (List.mem_cons_of_mem _ (List.mem_cons_self ..))
  have subject : event.field "subject_digest" = sha256 row.subject :=
    AuditEventRow.field_of_object shows.payload createNames_nodup
      (List.mem_cons_of_mem _ (List.mem_cons_of_mem _ (List.mem_cons_self ..)))
  rw [replay, if_pos action, target, provider, issuer, subject, user_of_create shows,
    ExternalIdentityBindingRow.standing, active]

theorem replay_disable (standings : List BindingStanding)
    (shows : event.Shows (disableEntry sha256 actorId reason row)) :
    replay standings event = standings.map (disable row.id) := by
  have action : event.action = disableAction := shows.action
  have target : event.targetId = row.id := shows.target
  have other : event.action ≠ createAction := by
    rw [action]
    decide
  rw [replay, if_neg other, if_pos action, target]

theorem foldl_other {events : List AuditEventRow} {standings : List BindingStanding}
    (others : ∀ event ∈ events, event.action ∉ [createAction, disableAction]) :
    events.foldl replay standings = standings := by
  induction events with
  | nil => rfl
  | cons event events induction =>
      rw [List.forall_mem_cons, List.mem_cons, List.mem_singleton, not_or] at others
      rw [List.foldl_cons, replay, if_neg others.1.1, if_neg others.1.2]
      exact induction others.2

theorem map_replace {table : List ExternalIdentityBindingRow} (keyed : Table.Keyed (·.id) table)
    (stored : row ∈ table) (disabledAt : String) :
    (Table.replace (·.id) table (row.disable disabledAt)).map (·.standing sha256) =
      (table.map (·.standing sha256)).map (disable row.id) := by
  rw [Table.replace, List.map_map, List.map_map]
  apply List.map_congr_left
  intro other member
  by_cases same : other.id = row.id
  · obtain rfl := keyed.unique member stored same
    simp [disable, ExternalIdentityBindingRow.standing]
  · simp [disable, ExternalIdentityBindingRow.standing, same]

end BindingStanding

def Database.Administers (db : Database) (actorId : String) : Prop :=
  ∃ user ∈ db.users, user.id = actorId ∧ user.active = true ∧ user.role = "administrator"

/-- What a call that commits does to the bindings. -/
inductive BindingStep (sha256 : String → String) (db next : Database) : Option String → Prop where
  | other (actor : Option String) (events : List AuditEventRow)
      (users : Table.Keyed (·.id) db.users → Table.Keyed (·.id) next.users)
      (bindings : next.externalIdentityBindings = db.externalIdentityBindings)
      (logged : next.auditEvents = db.auditEvents ++ events)
      (others : ∀ event ∈ events, event.action ∉ [createAction, disableAction]) :
      BindingStep sha256 db next actor
  | create (row : ExternalIdentityBindingRow) (event : AuditEventRow)
      (actorId userRole reason : String)
      (administers : db.Administers actorId) (another : actorId ≠ row.userId)
      (active : row.active = true) (checked : row.Checked)
      (fresh : ∀ other ∈ db.externalIdentityBindings, ¬row.Clashes other)
      (users : next.users = db.users)
      (bindings : next.externalIdentityBindings = db.externalIdentityBindings ++ [row])
      (logged : next.auditEvents = db.auditEvents ++ [event])
      (shows : event.Shows (createEntry sha256 actorId userRole reason row)) :
      BindingStep sha256 db next (some actorId)
  | disable (row : ExternalIdentityBindingRow) (event : AuditEventRow)
      (actorId reason disabledAt : String)
      (administers : db.Administers actorId) (another : actorId ≠ row.userId)
      (stored : row ∈ db.externalIdentityBindings) (active : row.active = true)
      (users : next.users = db.users)
      (bindings : next.externalIdentityBindings =
        Table.replace (·.id) db.externalIdentityBindings (row.disable disabledAt))
      (logged : next.auditEvents = db.auditEvents ++ [event])
      (shows : event.Shows (disableEntry sha256 actorId reason row)) :
      BindingStep sha256 db next (some actorId)

theorem requireActiveAdministrator_eq_ok {db : Database} {actorId : String} {user : UserRow}
    (passed : requireActiveAdministrator db actorId = .ok user) : db.Administers actorId := by
  simp only [requireActiveAdministrator, bind_eq_ok, orRaise_eq_ok, raiseIf_eq_ok, not_not,
    pure_eq_ok] at passed
  obtain ⟨_, found, _, active, _, administrator, rfl⟩ := passed
  obtain ⟨member, same⟩ := Table.mem_of_lookup found
  exact ⟨_, member, same, by simpa using active, administrator⟩

theorem IdentityCall.step_of_ok {sha256 : String → String} {rules : UrlRules} {db next : Database}
    {call : IdentityCall} (returned : call.body sha256 rules db = .ok ((), next)) :
    BindingStep sha256 db next call.actor := by
  cases call with
  | create supplies actorId userId provider issuer subject reason =>
      simp only [body, createBinding, bind_eq_ok, catching_eq_ok, raiseIf_eq_ok, pure_eq_ok,
        Prod.mk.injEq, true_and] at returned
      obtain ⟨_, ⟨key, -, reason, -, _, administrator, target, -, _, another, _, bound, _, audited,
        rfl⟩, rfl⟩ := returned
      obtain ⟨rfl, checked, fresh⟩ := Database.insertBinding_eq_ok bound
      obtain ⟨rfl, -⟩ := Database.appendAudit_eq_ok audited
      exact .create _ _ actorId target.role reason (requireActiveAdministrator_eq_ok administrator)
        another rfl checked fresh rfl rfl rfl (Database.auditRow_shows ..)
  | disable supplies actorId bindingId reason =>
      simp only [body, ExternalIdentityService.disableBinding, bind_eq_ok, orRaise_eq_ok,
        raiseIf_eq_ok, pure_eq_ok, Prod.mk.injEq, true_and] at returned
      obtain ⟨_, ⟨reason, -, _, administrator, row, found, _, -, _, another, _, changed, _, audited,
        rfl⟩, rfl⟩ := returned
      generalize result : db.disableBinding supplies.now bindingId = outcome at changed audited
      obtain ⟨disabled, updated⟩ := outcome
      obtain ⟨id, rfl⟩ := Option.ne_none_iff_exists'.mp changed
      obtain ⟨other, again, active, rfl⟩ := Database.disableBinding_eq_some result
      obtain rfl : row = other := Option.some.inj (found.symm.trans again)
      obtain ⟨rfl, -⟩ := Database.appendAudit_eq_ok audited
      exact .disable row _ actorId reason supplies.now
        (requireActiveAdministrator_eq_ok administrator) another (Table.mem_of_lookup found).1
          active
        rfl rfl rfl (Database.auditRow_shows ..)
  | audit stamp entry other =>
      simp only [body, bind_eq_ok, pure_eq_ok, Prod.mk.injEq, true_and] at returned
      obtain ⟨_, audited, rfl⟩ := returned
      obtain ⟨rfl, -⟩ := Database.appendAudit_eq_ok audited
      exact .other _ [_] id rfl rfl (List.forall_mem_singleton.mpr other)
  | elsewhere other keyed =>
      cases returned
      exact .other _ [] (fun _ => keyed) rfl (List.append_nil _).symm (List.forall_mem_nil _)

/-- A call changes the bindings by adding one or by disabling one, on the command of an
administrator and for the account of another. -/
def Governs (db next : Database) (actorId : String) : Prop :=
  db.Administers actorId ∧ ∃ row : ExternalIdentityBindingRow, actorId ≠ row.userId ∧
    (next.externalIdentityBindings = db.externalIdentityBindings ++ [row] ∨
      (row ∈ db.externalIdentityBindings ∧ ∃ disabledAt, next.externalIdentityBindings =
        Table.replace (·.id) db.externalIdentityBindings (row.disable disabledAt)))

theorem BindingStep.governed {sha256 : String → String} {db next : Database} {actor : Option String}
    (step : BindingStep sha256 db next actor)
    (changed : next.externalIdentityBindings ≠ db.externalIdentityBindings) :
    ∃ actorId, actor = some actorId ∧ Governs db next actorId := by
  cases step with
  | other actor events users bindings => exact absurd bindings changed
  | create row event actorId userRole reason administers another active checked fresh users
      bindings => exact ⟨actorId, rfl, administers, row, another, .inl bindings⟩
  | disable row event actorId reason disabledAt administers another stored active users bindings =>
      exact ⟨actorId, rfl, administers, row, another, .inr ⟨stored, disabledAt, bindings⟩⟩

/-- A database with the keys and checks of its tables. -/
structure IdentityStore where
  db : Database
  users : Table.Keyed (·.id) db.users
  ids : Table.Keyed (·.id) db.externalIdentityBindings
  identities : Table.Keyed (·.identityKey) db.externalIdentityBindings
  accounts : Table.Keyed (·.accountKey) db.externalIdentityBindings
  checked : ∀ row ∈ db.externalIdentityBindings, row.Checked

/-- What holds of every database that calls reach from a first one. -/
structure BindingsInvariant (sha256 : String → String) (start db : Database) : Prop where
  users : Table.Keyed (·.id) db.users
  ids : Table.Keyed (·.id) db.externalIdentityBindings
  identities : Table.Keyed (·.identityKey) db.externalIdentityBindings
  accounts : Table.Keyed (·.accountKey) db.externalIdentityBindings
  checked : ∀ row ∈ db.externalIdentityBindings, row.Checked
  logged : ∃ events, db.auditEvents = start.auditEvents ++ events ∧
    db.externalIdentityBindings.map (·.standing sha256) =
      events.foldl BindingStanding.replay (start.externalIdentityBindings.map (·.standing sha256)) ∧
    ∀ event ∈ events, event.action ∈ [createAction, disableAction] →
      event.actorId ≠ event.field "user_id"

/-- Each binding stays with its identity, and a disabled one stays as it is. -/
def Persists (db next : Database) : Prop :=
  ∀ row ∈ db.externalIdentityBindings, ∃ kept ∈ next.externalIdentityBindings,
    kept.fixed = row.fixed ∧ (row.active = false → kept = row)

namespace Persists

protected theorem refl (db : Database) : Persists db db := fun row member =>
  ⟨row, member, rfl, fun _ => rfl⟩

protected theorem trans {first second third : Database} (earlier : Persists first second)
    (later : Persists second third) : Persists first third := by
  intro row member
  obtain ⟨kept, keptMember, same, disabled⟩ := earlier row member
  obtain ⟨last, lastMember, again, stays⟩ := later kept keptMember
  refine ⟨last, lastMember, again.trans same, fun inactive => ?_⟩
  obtain rfl := disabled inactive
  exact stays inactive

end Persists

namespace BindingsInvariant

variable {sha256 : String → String} {rules : UrlRules} {start db next : Database}

theorem of_store (store : IdentityStore) : BindingsInvariant sha256 store.db store.db where
  users := store.users
  ids := store.ids
  identities := store.identities
  accounts := store.accounts
  checked := store.checked
  logged := ⟨[], (List.append_nil _).symm, rfl, List.forall_mem_nil _⟩

theorem extend (invariant : BindingsInvariant sha256 start db) {later : List AuditEventRow}
    (logged : next.auditEvents = db.auditEvents ++ later)
    (replayed : next.externalIdentityBindings.map (·.standing sha256) =
      later.foldl BindingStanding.replay (db.externalIdentityBindings.map (·.standing sha256)))
    (others : ∀ event ∈ later, event.action ∈ [createAction, disableAction] →
      event.actorId ≠ event.field "user_id") :
    ∃ events, next.auditEvents = start.auditEvents ++ events ∧
      next.externalIdentityBindings.map (·.standing sha256) =
        events.foldl BindingStanding.replay
          (start.externalIdentityBindings.map (·.standing sha256)) ∧
      ∀ event ∈ events, event.action ∈ [createAction, disableAction] →
        event.actorId ≠ event.field "user_id" := by
  obtain ⟨events, isLog, isFold, apart⟩ := invariant.logged
  refine ⟨events ++ later, ?_, ?_, ?_⟩
  · rw [logged, isLog, List.append_assoc]
  · rw [List.foldl_append, ← isFold, replayed]
  · intro event member
    exact (List.mem_append.mp member).elim (apart event) (others event)

protected theorem step {actor : Option String} (invariant : BindingsInvariant sha256 start db)
    (step : BindingStep sha256 db next actor) : BindingsInvariant sha256 start next := by
  cases step with
  | other actor events users bindings logged others =>
      refine ⟨users invariant.users, bindings ▸ invariant.ids, bindings ▸ invariant.identities,
        bindings ▸ invariant.accounts, bindings ▸ invariant.checked, invariant.extend logged ?_ ?_⟩
      · rw [bindings, BindingStanding.foldl_other others]
      · exact fun event member action => absurd action (others event member)
  | create row event actorId userRole reason administers another active checked fresh users bindings
      logged shows =>
      have apart (other : ExternalIdentityBindingRow)
          (member : other ∈ db.externalIdentityBindings) : other.id ≠ row.id ∧
          other.identityKey ≠ row.identityKey ∧ other.accountKey ≠ row.accountKey := by
        have clashes := fresh other member
        rw [not_or, not_or] at clashes
        exact clashes
      refine ⟨users ▸ invariant.users, ?_, ?_, ?_, ?_, invariant.extend logged ?_ ?_⟩
      · rw [bindings]
        exact invariant.ids.append fun other member => (apart other member).1
      · rw [bindings]
        exact invariant.identities.append fun other member => (apart other member).2.1
      · rw [bindings]
        exact invariant.accounts.append fun other member => (apart other member).2.2
      · rw [bindings]
        exact List.forall_mem_append.mpr
          ⟨invariant.checked, List.forall_mem_singleton.mpr checked⟩
      · rw [bindings, List.map_append, List.map_singleton, List.foldl_cons,
          BindingStanding.replay_create _ active shows, List.foldl_nil]
      · refine List.forall_mem_singleton.mpr fun _ => ?_
        rw [BindingStanding.user_of_create shows, shows.actor]
        exact another
  | disable row event actorId reason disabledAt administers another stored active users bindings
      logged shows =>
      have only (other : ExternalIdentityBindingRow)
          (member : other ∈ db.externalIdentityBindings)
          (same : other.id = (row.disable disabledAt).id) : other = row :=
        invariant.ids.unique member stored same
      refine ⟨users ▸ invariant.users, ?_, ?_, ?_, ?_, invariant.extend logged ?_ ?_⟩
      · rw [bindings]
        exact invariant.ids.replace
      · rw [bindings, Table.Keyed, Table.map_replace_of_eq]
        · exact invariant.identities
        · intro other member same
          rw [only other member same]
          rfl
      · rw [bindings, Table.Keyed, Table.map_replace_of_eq]
        · exact invariant.accounts
        · intro other member same
          rw [only other member same]
          rfl
      · rw [bindings]
        intro other member
        rcases Table.mem_replace.mp member with ⟨rfl, -⟩ | ⟨old, -⟩
        · obtain ⟨provider, issuer, subject, -⟩ := invariant.checked row stored
          exact ⟨provider, issuer, subject, by simp⟩
        · exact invariant.checked other old
      · rw [bindings, BindingStanding.map_replace invariant.ids stored, List.foldl_cons,
          BindingStanding.replay_disable _ shows, List.foldl_nil]
      · refine List.forall_mem_singleton.mpr fun _ => ?_
        rw [BindingStanding.user_of_disable shows, shows.actor]
        exact another

theorem call (invariant : BindingsInvariant sha256 start db) (call : IdentityCall) :
    BindingsInvariant sha256 start (call.step sha256 rules db) :=
  Transaction.commit_cases _ db invariant fun _ _ returned =>
    invariant.step (IdentityCall.step_of_ok returned)

theorem run (invariant : BindingsInvariant sha256 start db) (calls : List IdentityCall) :
    BindingsInvariant sha256 start (Transaction.run (IdentityCall.step sha256 rules) db calls) :=
  Transaction.run_invariant (fun _ call held => held.call call) invariant calls

theorem persists_step {actor : Option String} (invariant : BindingsInvariant sha256 start db)
    (step : BindingStep sha256 db next actor) : Persists db next := by
  intro row member
  cases step with
  | other actor events users bindings => exact ⟨row, bindings ▸ member, rfl, fun _ => rfl⟩
  | create new event actorId userRole reason administers another active checked fresh users
      bindings =>
      exact ⟨row, bindings ▸ List.mem_append_left _ member, rfl, fun _ => rfl⟩
  | disable changed event actorId reason disabledAt administers another stored active users
      bindings =>
      rw [bindings]
      by_cases same : row.id = changed.id
      · obtain rfl := invariant.ids.unique member stored same
        refine ⟨row.disable disabledAt, Table.mem_replace.mpr (.inl ⟨rfl, row, stored, rfl⟩), rfl,
          ?_⟩
        intro inactive
        rw [active] at inactive
        cases inactive
      · exact ⟨row, Table.mem_replace.mpr (.inr ⟨member, same⟩), rfl, fun _ => rfl⟩

theorem persists (invariant : BindingsInvariant sha256 start db) (calls : List IdentityCall) :
    Persists db (Transaction.run (IdentityCall.step sha256 rules) db calls) := by
  refine Transaction.run_relation Persists (fun _ call held => held.call call) Persists.refl
    Persists.trans (fun state call held => ?_) invariant calls
  exact Transaction.commit_cases _ state (Persists.refl state) fun _ _ returned =>
    held.persists_step (IdentityCall.step_of_ok returned)

theorem resolves (invariant : BindingsInvariant sha256 start db)
    {provider issuer subject : String} {account : BoundAccount} :
    resolveActiveBinding rules provider issuer subject db = .ok account ↔
      ∃ key, ExternalIdentityKey.create rules provider issuer subject = .ok key ∧
        ∃ row ∈ db.externalIdentityBindings,
          row.identityKey = (key.provider, key.issuer, key.subject) ∧ row.active = true ∧
          ∃ user ∈ db.users, user.id = row.userId ∧ user.active = true ∧ KnownRole user.role ∧
            account = ⟨row.id, row.userId, user.username, user.role⟩ := by
  simp only [resolveActiveBinding, bind_eq_ok, orRaise_eq_ok, raiseIf_eq_ok, not_not, pure_eq_ok,
    Prod.exists, Database.resolveActiveBinding_eq_some invariant.identities invariant.users]
  constructor
  · rintro ⟨key, isKey, row, user, ⟨⟨member, same, active, -⟩, stored, own, isActive⟩, _, known,
      rfl⟩
    exact ⟨key, isKey, row, member, same, active, user, stored, own, isActive, known, rfl⟩
  · rintro ⟨key, isKey, row, member, same, active, user, stored, own, isActive, known, rfl⟩
    have open_ := (invariant.checked row member).2.2.2.mp active
    exact ⟨key, isKey, row, user, ⟨⟨member, same, active, open_⟩, stored, own, isActive⟩, (), known,
      rfl⟩

end BindingsInvariant

/-- In every run each external identity and each account has one binding at an issuer, which keeps
its identity and stays disabled once it is; the bindings are the replay of the log; only
administrators change them, for the accounts of others; a call that raises changes nothing; and an
identity resolves to the active account of its active binding.  Two spellings of one origin and path
are stored as one issuer exactly when they have scheme and host in the same case. -/
theorem externalIdentities_governed_iff (sha256 : String → String) (rules : UrlRules)
    (store : IdentityStore) (calls : List IdentityCall) :
    let step := IdentityCall.step sha256 rules
    let db := Transaction.run step store.db calls
    (Table.Keyed (·.identityKey) db.externalIdentityBindings ∧
      Table.Keyed (·.accountKey) db.externalIdentityBindings) ∧
    (∀ later, Persists db (Transaction.run step db later)) ∧
    (∃ events, db.auditEvents = store.db.auditEvents ++ events ∧
      db.externalIdentityBindings.map (·.standing sha256) =
        events.foldl BindingStanding.replay
          (store.db.externalIdentityBindings.map (·.standing sha256)) ∧
      ∀ event ∈ events, event.action ∈ [createAction, disableAction] →
        event.actorId ≠ event.field "user_id") ∧
    (∀ call : IdentityCall,
      let outcome := Transaction.commit (call.body sha256 rules) db
      ((∃ error, outcome.1 = .error error) → outcome.2 = db) ∧
      (outcome.2.externalIdentityBindings ≠ db.externalIdentityBindings →
        ∃ actorId, call.actor = some actorId ∧ Governs db outcome.2 actorId)) ∧
    (∀ (provider issuer subject : String) (account : BoundAccount),
      resolveActiveBinding rules provider issuer subject db = .ok account ↔
        ∃ key, ExternalIdentityKey.create rules provider issuer subject = .ok key ∧
          ∃ row ∈ db.externalIdentityBindings,
            row.identityKey = (key.provider, key.issuer, key.subject) ∧ row.active = true ∧
            ∃ user ∈ db.users, user.id = row.userId ∧ user.active = true ∧ KnownRole user.role ∧
              account = ⟨row.id, row.userId, user.username, user.role⟩) ∧
    ∀ (spelling other : IssuerSpelling) (issuer otherIssuer : String), spelling.Same other →
      validateIssuer rules spelling.text = .ok issuer →
      validateIssuer rules other.text = .ok otherIssuer →
      (issuer = otherIssuer ↔ spelling.SameCase other) := by
  intro step db
  have invariant : BindingsInvariant sha256 store.db db :=
    (BindingsInvariant.of_store store).run calls
  refine ⟨⟨invariant.identities, invariant.accounts⟩, fun later => invariant.persists later,
    invariant.logged, fun call => ⟨?_, ?_⟩, fun _ _ _ _ => invariant.resolves, ?_⟩
  · rintro ⟨error, raised⟩
    exact Transaction.commit_rollback raised
  · refine Transaction.commit_cases (motive := fun next =>
      next.externalIdentityBindings ≠ db.externalIdentityBindings →
        ∃ actorId, call.actor = some actorId ∧ Governs db next actorId) _ db
      (fun changed => absurd rfl changed) fun _ next returned => ?_
    exact (IdentityCall.step_of_ok returned).governed
  · intro spelling other issuer otherIssuer same accepted otherAccepted
    exact spelling.stored_eq_iff other same accepted otherAccepted

def IssuerSpelling.ofHost (scheme host : List Char)
    (https : scheme.map Char.toLower = "https".toList)
    (ends : host.getLast?.any (!isSpace ·) = true)
    (plain : host.all (· ∉ ['/', '?', '#']) = true) : IssuerSpelling where
  before := []
  after := []
  scheme
  host
  path := []
  slashes := 0
  blank := List.forall_mem_nil _
  https
  named := by
    rintro rfl
    cases ends
  plain := by simpa using plain
  rooted := by simp
  trimmed := by simp
  closed _ character isLast := by
    rw [List.append_nil] at isLast
    rw [Option.mem_def.mp isLast] at ends
    simpa using ends

namespace IssuerSpelling

def capital : IssuerSpelling :=
  ofHost "HTTPS".toList "Example.com".toList (by decide) (by decide) (by decide)

/-- The same address without capitals. -/
def small : IssuerSpelling :=
  ofHost "https".toList "example.com".toList (by decide) (by decide) (by decide)

theorem capital_text : capital.text = "HTTPS://Example.com" := by decide

theorem small_text : small.text = "https://example.com" := by decide

theorem capital_same_small : capital.Same small := ⟨by decide, by decide⟩

end IssuerSpelling

/-- Two spellings of one origin that are stored as two issuers. -/
theorem externalIdentities_two_issuers : ¬∀ (rules : UrlRules) (spelling other : IssuerSpelling)
    (issuer otherIssuer : String), spelling.Same other →
      validateIssuer rules spelling.text = .ok issuer →
      validateIssuer rules other.text = .ok otherIssuer → issuer = otherIssuer := by
  intro normalized
  have capital (rules : UrlRules) : validateIssuer rules "HTTPS://Example.com" =
      .ok "HTTPS://Example.com" := rfl
  have small (rules : UrlRules) : validateIssuer rules "https://example.com" =
      .ok "https://example.com" := rfl
  have same := normalized ⟨fun _ => .ok (), fun _ => .ok ()⟩ .capital .small
    "HTTPS://Example.com" "https://example.com" IssuerSpelling.capital_same_small
  rw [IssuerSpelling.capital_text, IssuerSpelling.small_text] at same
  exact absurd (same (capital _) (small _)) (by decide)

end VoodooOne
