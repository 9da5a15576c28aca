import VoodooOne.Identity.Tokens
import VoodooOne.Schema.Identities

/-!
# Sessions

A token authenticates while the session it names is registered.  Sessions are registered when their
tokens are issued, and leave the table when they are revoked or expired.
-/

namespace VoodooOne

def validRoles : List String :=
  ["viewer", "developer", "operator", "security_reviewer", "auditor", "administrator"]

def getActiveUser (userId : String) (db : Database) : Except Raised UserRow := do
  let row ← orRaise ⟨.permissionError, "account is inactive"⟩
    (Table.lookup (·.id) db.users userId)
  raiseIf (row.active = false) ⟨.permissionError, "account is inactive"⟩
  raiseIf (row.role ∉ validRoles) ⟨.permissionError, "account role is invalid"⟩
  return row

structure SessionClaims where
  (sessionId userId : String)
  (issuedAt expiresAt : Int)
deriving DecidableEq, Repr

def VerifiedSessionToken.claims (verified : VerifiedSessionToken) : SessionClaims :=
  ⟨verified.sessionId, verified.principal.userId, verified.issuedAt, verified.expiresAt⟩

def SessionClaims.row (session : SessionClaims) (reference : String) : ActiveSessionRow :=
  ⟨reference, session.userId, session.issuedAt, session.expiresAt⟩

namespace SessionLifecycleService

def issueAction : String := "session.issue"

def revokeAction : String := "session.revoke"

/-- The action of the revocation of all sessions of a user. -/
def revokeAllAction : String := "session.revoke_all"

def issueEntry (row : ActiveSessionRow) : AuditEntry where
  actorId := row.userId
  action := issueAction
  targetType := "session"
  targetId := row.sessionReference
  payload := .object [("expires_at", .int row.expiresAt), ("provider", .str "local")]

/-- The event of a revoked session. -/
def revokeEntry (actorId reference reason : String) : AuditEntry where
  actorId
  action := revokeAction
  targetType := "session"
  targetId := reference
  payload := .object [("reason", .str reason)]

/-- The event of the revocation of all sessions of a user. -/
def revokeAllEntry (actorId userId reason : String) (revokedCount : Nat) : AuditEntry where
  actorId
  action := revokeAllAction
  targetType := "user"
  targetId := userId
  payload := .object [("reason", .str reason), ("revoked_count", .int revokedCount)]

/-- The exception of a session that is not there. -/
def sessionInactive : Raised := ⟨.permissionError, "authentication session is inactive"⟩

/-- The reason of a revocation without the white space around it. -/
def normalizedReason (reason : String) : Except Raised String := do
  let normalized := strip reason
  raiseIf (¬(3 ≤ normalized.length ∧ normalized.length ≤ 200))
    (valueError "session revocation reason is invalid")
  return normalized

variable (sha256 : String → String) (authority : TokenAuthority)

def reference (sessionId : String) : Except Raised String := do
  let reference ← authority.sessionReference sessionId
  raiseIf (¬IsDigest reference) (valueError "session reference is invalid")
  return reference

/-- `register_session`, with the row that it writes. -/
def registerSession (stamp : Stamp) (now : Int) (session : SessionClaims) (db : Database) :
    Except Raised (ActiveSessionRow × Database) := do
  raiseIf (session.expiresAt ≤ session.issuedAt) (valueError "session lifetime is invalid")
  let reference ← reference authority session.sessionId
  let purged := db.deleteExpiredActiveSessions now
  let registered ← catching [.databaseIntegrityError]
    ⟨.runtimeError, "session registration failed"⟩
      (purged.insertActiveSession (session.row reference))
  let audited ← registered.appendAudit sha256 stamp (issueEntry (session.row reference))
  return (session.row reference, audited)

def requireActiveSession (now : Int) (session : SessionClaims) (db : Database) :
    Except Raised Unit := do
  let reference ← reference authority session.sessionId
  let row ← orRaise sessionInactive (db.selectActiveSession reference now)
  raiseIf (row.userId ≠ session.userId ∨ row.issuedAt ≠ session.issuedAt ∨
    row.expiresAt ≠ session.expiresAt) sessionInactive

/-- `revoke_session`, with the reference of the session. -/
def revokeSession (stamp : Stamp) (sessionId userId actorId reason : String) (db : Database) :
    Except Raised (String × Database) := do
  raiseIf (actorId ≠ userId) ⟨.permissionError, "session owner mismatch"⟩
  let normalizedReason ← normalizedReason reason
  let reference ← reference authority sessionId
  let (removed, next) := db.deleteActiveSession reference userId
  raiseIf (removed = none) sessionInactive
  let audited ← next.appendAudit sha256 stamp (revokeEntry actorId reference normalizedReason)
  return (reference, audited)

/-- `revoke_all_sessions`, with the count that it returns. -/
def revokeAllSessions (stamp : Stamp) (userId actorId reason : String) (db : Database) :
    Except Raised (Nat × Database) := do
  raiseIf (¬(1 ≤ userId.length ∧ userId.length ≤ 128) ∨
      ¬(1 ≤ actorId.length ∧ actorId.length ≤ 128))
    (valueError "session revocation identity is invalid")
  let normalizedReason ← normalizedReason reason
  raiseIf (Table.lookup (·.id) db.users userId = none) ⟨.lookupError, "user not found"⟩
  let (removed, next) := db.deleteActiveSessionsForUser userId
  let audited ← next.appendAudit sha256 stamp
    (revokeAllEntry actorId userId normalizedReason removed.length)
  return (removed.length, audited)

end SessionLifecycleService

namespace LocalIdentityProvider

open SessionLifecycleService

variable (sha256 : String → String) (authority : TokenAuthority)

/-- `authenticate_bearer`.  The session and the account are read one after the other, each from the
database as it is then. -/
def authenticateBearer (verifiedAt now : Int) (token : String) (sessions accounts : Database) :
    Except Raised Principal := do
  let verified ← verifySessionToken authority verifiedAt token
  requireActiveSession authority now verified.claims sessions
  let activeUser ← getActiveUser verified.principal.userId accounts
  return ⟨activeUser.id, activeUser.username, activeUser.role⟩

/-- `issue_session`, with the session that it registers. -/
def issueSession (stamp : Stamp) (nonce : String) (issuedAt verifiedAt now : Int)
    (userId username role : String) (db : Database) :
    Except Raised ((String × SessionClaims × ActiveSessionRow) × Database) := do
  let token ← issueToken authority userId username role authority.tokenTtlSeconds issuedAt nonce
  let verified ← verifySessionToken authority verifiedAt token
  let (row, registered) ← registerSession sha256 authority stamp now verified.claims db
  return ((token, verified.claims, row), registered)

/-- `revoke_session`, with the session and its reference. -/
def revokeSession (stamp : Stamp) (verifiedAt : Int) (token actorId : String) (db : Database) :
    Except Raised ((SessionClaims × String) × Database) := do
  let verified ← verifySessionToken authority verifiedAt token
  let (reference, revoked) ← SessionLifecycleService.revokeSession sha256 authority stamp
    verified.sessionId verified.principal.userId actorId "user logout" db
  return ((verified.claims, reference), revoked)

end LocalIdentityProvider

end VoodooOne
