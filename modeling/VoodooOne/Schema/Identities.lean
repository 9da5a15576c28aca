import VoodooOne.Schema.Tables

/-!
# External identities and sessions

Keys, checks and statements of `external_identity_bindings` and `active_sessions`.
-/

namespace VoodooOne

/-- `length(column)`: the characters before the first NUL. -/
def columnLength (text : String) : Nat := (text.toList.takeWhile (·.toNat ≠ 0)).length

namespace ExternalIdentityBindingRow

/-- `UNIQUE(provider, issuer, subject)`. -/
abbrev identityKey (row : ExternalIdentityBindingRow) : String × String × String :=
  (row.provider, row.issuer, row.subject)

/-- `UNIQUE(provider, issuer, user_id)`. -/
abbrev accountKey (row : ExternalIdentityBindingRow) : String × String × String :=
  (row.provider, row.issuer, row.userId)

abbrev Checked (row : ExternalIdentityBindingRow) : Prop :=
  row.provider = "oidc" ∧ (1 ≤ columnLength row.issuer ∧ columnLength row.issuer ≤ 2048) ∧
    (1 ≤ columnLength row.subject ∧ columnLength row.subject ≤ 512) ∧
    (row.active = true ↔ row.disabledAt = none)

/-- Whether a row has a key of another one. -/
abbrev Clashes (row other : ExternalIdentityBindingRow) : Prop :=
  other.id = row.id ∨ other.identityKey = row.identityKey ∨ other.accountKey = row.accountKey

/-- The columns that no update changes. -/
def fixed (row : ExternalIdentityBindingRow) :
    String × String × String × String × String × String :=
  (row.id, row.provider, row.issuer, row.subject, row.userId, row.createdAt)

@[simps] def disable (row : ExternalIdentityBindingRow) (disabledAt : String) :
    ExternalIdentityBindingRow :=
  { row with active := false, disabledAt := some disabledAt }

end ExternalIdentityBindingRow

namespace Database

def insertBinding (db : Database) (row : ExternalIdentityBindingRow) : Except Raised Database := do
  raiseIf (¬row.Checked) integrityError
  raiseIf (∃ other ∈ db.externalIdentityBindings, row.Clashes other) integrityError
  raiseIf (¬db.HasUser row.userId) integrityError
  return db.setExternalIdentityBindings (db.externalIdentityBindings ++ [row])

def selectBinding (db : Database) (id : String) : Option ExternalIdentityBindingRow :=
  Table.lookup (·.id) db.externalIdentityBindings id

/-- `external_identity.disable_binding`: the identifier it returns and the next database. -/
def disableBinding (db : Database) (disabledAt id : String) : Option String × Database :=
  match (db.selectBinding id).filter fun row => row.active && row.disabledAt.isNone with
  | none => (none, db)
  | some row => (some row.id, db.setExternalIdentityBindings
      (Table.replace (·.id) db.externalIdentityBindings (row.disable disabledAt)))

/-- `external_identity.resolve_active_binding`: the binding with its account. -/
def resolveActiveBinding (db : Database) (key : String × String × String) :
    Option (ExternalIdentityBindingRow × UserRow) :=
  db.externalIdentityBindings.findSome? fun row =>
    if row.identityKey = key ∧ row.active = true ∧ row.disabledAt = none then
      (db.users.find? fun user => user.id = row.userId ∧ user.active = true).map (row, ·)
    else none

variable {row : ExternalIdentityBindingRow}

theorem insertBinding_eq_ok {db next : Database} (inserted : db.insertBinding row = .ok next) :
    next = db.setExternalIdentityBindings (db.externalIdentityBindings ++ [row]) ∧
      row.Checked ∧ ∀ other ∈ db.externalIdentityBindings, ¬row.Clashes other := by
  simp only [insertBinding, bind_eq_ok, raiseIf_eq_ok, not_not, pure_eq_ok] at inserted
  obtain ⟨_, checked, _, fresh, _, -, rfl⟩ := inserted
  exact ⟨rfl, checked, fun other member clash => fresh ⟨other, member, clash⟩⟩

theorem disableBinding_eq_some {db next : Database} {disabledAt id found : String}
    (disabled : db.disableBinding disabledAt id = (some found, next)) :
    ∃ row, db.selectBinding id = some row ∧ row.active = true ∧
      next = db.setExternalIdentityBindings
        (Table.replace (·.id) db.externalIdentityBindings (row.disable disabledAt)) := by
  unfold disableBinding at disabled
  split at disabled
  · cases disabled
  · next row isActive =>
    rw [Option.filter_eq_some_iff, Bool.and_eq_true] at isActive
    cases disabled
    exact ⟨row, isActive.1, isActive.2.1, rfl⟩

theorem of_resolveActiveBinding {db : Database} {key : String × String × String} {user : UserRow}
    (found : db.resolveActiveBinding key = some (row, user)) :
    (row ∈ db.externalIdentityBindings ∧ row.identityKey = key ∧ row.active = true ∧
      row.disabledAt = none) ∧ user ∈ db.users ∧ user.id = row.userId ∧ user.active = true := by
  obtain ⟨binding, member, isFound⟩ := List.exists_of_findSome?_eq_some found
  split at isFound
  · next matched =>
    obtain ⟨account, isAccount, same⟩ := Option.map_eq_some_iff.mp isFound
    cases same
    have active := List.find?_some isAccount
    rw [decide_eq_true_eq] at active
    exact ⟨⟨member, matched⟩, List.mem_of_find?_eq_some isAccount, active⟩
  · cases isFound

theorem resolveActiveBinding_eq_some {db : Database} {key : String × String × String}
    {user : UserRow} (identities : Table.Keyed (·.identityKey) db.externalIdentityBindings)
    (users : Table.Keyed (·.id) db.users) :
    db.resolveActiveBinding key = some (row, user) ↔
      (row ∈ db.externalIdentityBindings ∧ row.identityKey = key ∧ row.active = true ∧
        row.disabledAt = none) ∧ user ∈ db.users ∧ user.id = row.userId ∧ user.active = true := by
  refine ⟨of_resolveActiveBinding, fun ⟨⟨member, matched⟩, stored, active⟩ => ?_⟩
  cases found : db.resolveActiveBinding key with
  | none =>
      have missed := List.findSome?_eq_none_iff.mp found row member
      rw [if_pos matched, Option.map_eq_none_iff, List.find?_eq_none] at missed
      exact absurd (decide_eq_true active) (missed user stored)
  | some pair =>
      obtain ⟨binding, account⟩ := pair
      obtain ⟨⟨isBinding, same, -⟩, isAccount, own, -⟩ := of_resolveActiveBinding found
      obtain rfl := identities.unique isBinding member (same.trans matched.1.symm)
      rw [users.unique isAccount stored (own.trans active.1.symm)]

/-- `active_sessions.insert`. -/
def insertActiveSession (db : Database) (row : ActiveSessionRow) : Except Raised Database := do
  raiseIf (columnLength row.sessionReference ≠ 64 ∨ row.expiresAt ≤ row.issuedAt) integrityError
  raiseIf (∃ other ∈ db.activeSessions, other.sessionReference = row.sessionReference)
    integrityError
  raiseIf (¬db.HasUser row.userId) integrityError
  return db.setActiveSessions (db.activeSessions ++ [row])

/-- `active_sessions.select_active`. -/
def selectActiveSession (db : Database) (sessionReference : String) (now : Int) :
    Option ActiveSessionRow :=
  db.activeSessions.find? fun row => row.sessionReference = sessionReference ∧ now < row.expiresAt

/-- `active_sessions.delete`: the deleted row and the next database. -/
def deleteActiveSession (db : Database) (sessionReference userId : String) :
    Option ActiveSessionRow × Database :=
  (db.activeSessions.find? fun row => row.sessionReference = sessionReference ∧ row.userId = userId,
    db.setActiveSessions (db.activeSessions.filter fun row =>
      ¬(row.sessionReference = sessionReference ∧ row.userId = userId)))

/-- `active_sessions.delete_for_user`: the deleted rows and the next database. -/
def deleteActiveSessionsForUser (db : Database) (userId : String) :
    List ActiveSessionRow × Database :=
  (db.activeSessions.filter (·.userId = userId),
    db.setActiveSessions (db.activeSessions.filter (·.userId ≠ userId)))

/-- `active_sessions.delete_expired`. -/
def deleteExpiredActiveSessions (db : Database) (now : Int) : Database :=
  db.setActiveSessions (db.activeSessions.filter (now < ·.expiresAt))

theorem selectActiveSession_eq_some {db : Database} {sessionReference : String} {now : Int}
    {row : ActiveSessionRow} (keyed : Table.Keyed (·.sessionReference) db.activeSessions) :
    db.selectActiveSession sessionReference now = some row ↔
      row ∈ db.activeSessions ∧ row.sessionReference = sessionReference ∧ now < row.expiresAt := by
  constructor
  · intro found
    have matched := List.find?_some found
    rw [decide_eq_true_eq] at matched
    exact ⟨List.mem_of_find?_eq_some found, matched⟩
  · rintro ⟨member, rfl, unexpired⟩
    cases found : db.selectActiveSession row.sessionReference now with
    | none =>
        rw [selectActiveSession, List.find?_eq_none] at found
        exact absurd (decide_eq_true ⟨rfl, unexpired⟩) (found row member)
    | some other =>
        have same := List.find?_some found
        rw [decide_eq_true_eq] at same
        rw [keyed.unique (List.mem_of_find?_eq_some found) member same.1]

end Database

end VoodooOne
