import VoodooOne.Foundation.Checks

/-!
# Trusted clock

A clock reading becomes a witness that names its source, its environment and the time read.  The
reading itself comes from outside and may be anything.
-/

namespace VoodooOne

open Calendar

def validEnvironments : List String := ["local", "development", "staging", "production"]

/-- What a clock source returns; a moment is kept as its rendering in milliseconds shows it. -/
inductive ClockReading where
  | aware (instant : Instant)
  | naive
  | notDatetime
  | raises (error : Raised)
deriving DecidableEq

structure ClockWitness where
  /-- The clock source. -/
  sourceIdentity : String
  /-- Revision of the clock authority. -/
  authorityRevision : String
  /-- Environment that the reading is for. -/
  environment : String
  /-- The time read. -/
  observedAt : String
  witnessDigest : String
deriving DecidableEq, Repr

namespace ClockWitness

def claimFields (witness : ClockWitness) : List (String × Json) :=
  [("witness_type", .str "clock-witness/v1"),
    ("source_identity", .str witness.sourceIdentity),
    ("authority_revision", .str witness.authorityRevision),
    ("environment", .str witness.environment),
    ("observed_at", .str witness.observedAt)]

def claimsWithoutDigest (witness : ClockWitness) : Json := .object witness.claimFields

def toDict (witness : ClockWitness) : Json :=
  .object (witness.claimFields ++ [("witness_digest", .str witness.witnessDigest)])

def postInit (sha256 : String → String) (witness : ClockWitness) : Except Raised Unit := do
  let _ ← requireText (.str witness.sourceIdentity) "source_identity"
  let _ ← requireText (.str witness.authorityRevision) "authority_revision"
  raiseIf (witness.environment ∉ validEnvironments) (valueError "environment is invalid")
  let _ ← orRaise (valueError "observed_at must use canonical UTC millisecond form")
    (Instant.ofIsoformat? witness.observedAt)
  raiseIf (¬IsDigest witness.witnessDigest)
    (valueError "witness_digest must be a lowercase SHA-256 digest")
  raiseIf (witness.witnessDigest ≠ digestOf sha256 witness.claimsWithoutDigest)
    (valueError "witness_digest does not match clock witness")

/-- `create`, from an aware moment. -/
def create (sha256 : String → String) (sourceIdentity authorityRevision environment : String)
    (observedAt : Instant) : Except Raised ClockWitness := do
  let draft : ClockWitness :=
    ⟨sourceIdentity, authorityRevision, environment, observedAt.isoformat, ""⟩
  let witness := { draft with witnessDigest := digestOf sha256 draft.claimsWithoutDigest }
  witness.postInit sha256
  return witness

end ClockWitness

structure TrustedClockAuthority where
  /-- The clock source. -/
  sourceIdentity : String
  authorityRevision : String
  /-- Environments that the source may serve. -/
  allowedEnvironments : List String
deriving DecidableEq

/-- `TrustedClockAuthority.witness`, on what the source returned. -/
def TrustedClockAuthority.witness (authority : TrustedClockAuthority) (sha256 : String → String)
    (environment : String) (reading : ClockReading) : Except Raised ClockWitness := do
  raiseIf (environment ∉ validEnvironments) (valueError "environment is invalid")
  raiseIf (environment ∉ authority.allowedEnvironments)
    ⟨.permissionError, "clock source is not authorized for environment"⟩
  match reading with
  | .aware instant =>
      ClockWitness.create sha256 authority.sourceIdentity authority.authorityRevision environment
        instant
  | .naive => .error (valueError "clock source returned naive time")
  | .notDatetime => .error ⟨.runtimeError, "clock source returned invalid value"⟩
  | .raises error => .error error

theorem TrustedClockAuthority.witness_eq_ok {authority : TrustedClockAuthority}
    {sha256 : String → String} {environment : String} {reading : ClockReading}
    {witness : ClockWitness}
    (witnessed : authority.witness sha256 environment reading = .ok witness) :
    ∃ instant, reading = .aware instant ∧ witness.observedAt = instant.isoformat ∧
      witness.environment = environment := by
  simp only [TrustedClockAuthority.witness, bind_eq_ok] at witnessed
  obtain ⟨_, _, _, _, created⟩ := witnessed
  cases reading with
  | aware instant =>
      simp only [ClockWitness.create, bind_eq_ok, pure_eq_ok] at created
      obtain ⟨_, _, rfl⟩ := created
      exact ⟨instant, rfl, rfl, rfl⟩
  | naive => cases created
  | notDatetime => cases created
  | raises error => cases created

end VoodooOne
