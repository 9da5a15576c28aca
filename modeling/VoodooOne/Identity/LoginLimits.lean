import VoodooOne.Foundation.Checks
import VoodooOne.Library.Lockout
import VoodooOne.Library.Table
import VoodooOne.Library.Transaction

/-!
# Limits of authentication failures

Failures to authenticate are counted for accounts and for sources, under hashed keys.  A key with
too many failures in a window is blocked for a while.
-/

namespace VoodooOne

/-- Row of `auth_rate_limits`. -/
structure AuthRateLimitRow where
  (scope keyHash : String)
  (failureCount windowStartedAt blockedUntil updatedAt : Int)
deriving DecidableEq, Repr

def AuthRateLimitRow.key (row : AuthRateLimitRow) : String × String := (row.scope, row.keyHash)

/-- The limits of `ProductConfig`, as it checks them. -/
structure AuthLimitConfig where
  sessionSigningSecret : String
  (authMaxFailures authSourceMaxFailures authWindowSeconds authLockoutSeconds : Int)
  maxFailures : 2 ≤ authMaxFailures ∧ authMaxFailures ≤ 20
  sourceMaxFailures : authMaxFailures ≤ authSourceMaxFailures ∧ authSourceMaxFailures ≤ 200
  windowSeconds : 10 ≤ authWindowSeconds ∧ authWindowSeconds ≤ 3600
  lockoutSeconds : 10 ≤ authLockoutSeconds ∧ authLockoutSeconds ≤ 86400

/-- `AuthenticationRateLimitService`, with the hexadecimal HMAC of a message under a key. -/
structure AuthenticationRateLimitService where
  config : AuthLimitConfig
  hmac : String → String → String
  casefold : String → String

/-- One of `RateLimitEntries`. -/
structure RateLimitEntry where
  (scope value : String)
  maximum : Int
deriving DecidableEq, Repr

structure AuthRateLimitExceeded where
  retryAfter : Int
deriving DecidableEq, Repr

/-- The exception after a transaction that found a key blocked. -/
def raiseRetry (retryAfter : Int) : Except AuthRateLimitExceeded Unit :=
  if retryAfter ≠ 0 then .error ⟨max 1 retryAfter⟩ else .ok ()

inductive AuthSubject where
  | login (username source : String)
  | bootstrap (source : String)
deriving DecidableEq, Repr

/-- The table with the retry time that a transaction has found so far. -/
structure RateLimitState where
  retryAfter : Int
  rows : List AuthRateLimitRow
deriving DecidableEq, Repr

namespace AuthenticationRateLimitService

variable (service : AuthenticationRateLimitService)

/-- `_login_keys` and `_bootstrap_keys`. -/
def entries : AuthSubject → List RateLimitEntry
  | .login username source =>
      [⟨"login.account", username, service.config.authMaxFailures⟩,
        ⟨"login.source", source, service.config.authSourceMaxFailures⟩]
  | .bootstrap source => [⟨"bootstrap.source", source, service.config.authMaxFailures⟩]

def keyHash (scope value : String) : String :=
  service.hmac service.config.sessionSigningSecret
    (scope ++ String.singleton (Char.ofNat 0) ++ service.casefold (strip value))

def key (entry : RateLimitEntry) : String × String :=
  (entry.scope, service.keyHash entry.scope entry.value)

def select (rows : List AuthRateLimitRow) (entry : RateLimitEntry) : Option AuthRateLimitRow :=
  Table.lookup AuthRateLimitRow.key rows (service.key entry)

def delete (rows : List AuthRateLimitRow) (entry : RateLimitEntry) : List AuthRateLimitRow :=
  rows.filter fun row => row.key ≠ service.key entry

/-- The loop body of `_enforce`. -/
def enforceEntry (now : Int) (state : RateLimitState) (entry : RateLimitEntry) : RateLimitState :=
  match service.select state.rows entry with
  | none => state
  | some row =>
      if now < row.blockedUntil then
        { state with retryAfter := max state.retryAfter (row.blockedUntil - now) }
      else if 0 < row.blockedUntil ∨
          service.config.authWindowSeconds ≤ now - row.windowStartedAt then
        { state with rows := service.delete state.rows entry }
      else state

def enforce (now : Int) (entries : List RateLimitEntry) (rows : List AuthRateLimitRow) :
    Except AuthRateLimitExceeded Unit × List AuthRateLimitRow :=
  let state := entries.foldl (service.enforceEntry now) ⟨0, rows⟩
  (raiseRetry state.retryAfter, state.rows)

def writeFailures (now failureCount windowStartedAt : Int) (state : RateLimitState)
    (entry : RateLimitEntry) : RateLimitState :=
  let blockedUntil :=
    if entry.maximum ≤ failureCount then now + service.config.authLockoutSeconds else 0
  { retryAfter :=
      if now < blockedUntil then max state.retryAfter (blockedUntil - now) else state.retryAfter
    rows := Table.upsert AuthRateLimitRow.key state.rows
      ⟨entry.scope, service.keyHash entry.scope entry.value, failureCount, windowStartedAt,
        blockedUntil, now⟩ }

/-- The loop body of `_record_failure`. -/
def recordEntry (now : Int) (state : RateLimitState) (entry : RateLimitEntry) : RateLimitState :=
  match service.select state.rows entry with
  | none => service.writeFailures now 1 now state entry
  | some row =>
      if now < row.blockedUntil then
        { state with retryAfter := max state.retryAfter (row.blockedUntil - now) }
      else if 0 < row.blockedUntil ∨
          service.config.authWindowSeconds ≤ now - row.windowStartedAt then
        service.writeFailures now 1 now state entry
      else service.writeFailures now (row.failureCount + 1) row.windowStartedAt state entry

/-- The seconds that a row is kept. -/
def retention : Int :=
  max service.config.authWindowSeconds service.config.authLockoutSeconds * 2

def deleteExpired (rows : List AuthRateLimitRow) (before : Int) : List AuthRateLimitRow :=
  rows.filter fun row => ¬row.updatedAt < before

def recordFailure (now : Int) (entries : List RateLimitEntry) (rows : List AuthRateLimitRow) :
    Except AuthRateLimitExceeded Unit × List AuthRateLimitRow :=
  let state := entries.foldl (service.recordEntry now)
    ⟨0, deleteExpired rows (now - service.retention)⟩
  (raiseRetry state.retryAfter, state.rows)

def clear (entries : List RateLimitEntry) (rows : List AuthRateLimitRow) :
    Except AuthRateLimitExceeded Unit × List AuthRateLimitRow :=
  (.ok (), entries.foldl service.delete rows)

end AuthenticationRateLimitService

inductive AuthAction where
  | enforce
  | recordFailure
  | clear
deriving DecidableEq, Repr

/-- A call, with the seconds that the clock shows in it. -/
structure AuthCall where
  now : Nat
  action : AuthAction
  subject : AuthSubject
deriving DecidableEq, Repr

namespace AuthenticationRateLimitService

variable (service : AuthenticationRateLimitService)

def perform (call : AuthCall) (rows : List AuthRateLimitRow) :
    Except AuthRateLimitExceeded Unit × List AuthRateLimitRow :=
  match call.action with
  | .enforce => service.enforce call.now (service.entries call.subject) rows
  | .recordFailure => service.recordFailure call.now (service.entries call.subject) rows
  | .clear => service.clear (service.entries call.subject) rows

def step (rows : List AuthRateLimitRow) (call : AuthCall) : List AuthRateLimitRow :=
  (service.perform call rows).2

def after (calls : List AuthCall) : List AuthRateLimitRow := Transaction.run service.step [] calls

def keys (call : AuthCall) : List (String × String) :=
  (service.entries call.subject).map service.key

end AuthenticationRateLimitService

end VoodooOne
