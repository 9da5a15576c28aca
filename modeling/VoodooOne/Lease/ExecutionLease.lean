import VoodooOne.Dispatch.InboxAdmission

/-!
# Execution leases

A lease gives one admission to one worker for a bounded time.  The leases of an admission are
numbered by epochs, and only the lease of the current epoch passes the completion fence.
-/

namespace VoodooOne

open Calendar

structure ExecutionLease where
  (leaseId dispatchId admissionId admissionDigest : String)
  (executionId workspaceId environment : String)
  (executionCapsuleDigest runnerClass : String)
  /-- Number of the lease among those of its admission. -/
  executionEpoch : Int
  /-- Start and end of the lease. -/
  (acquiredAt expiresAt : String)
  (clockWitnessDigest leaseRevision leaseDigest : String)
deriving DecidableEq, Repr

def maxLeaseSeconds : Nat := 3600

def leaseId (sha256 : String → String) (admissionId : String) (executionEpoch : Int) : String :=
  digestOf sha256 (.object [("identity_type", .str "execution-lease-id/v1"),
    ("admission_id", .str admissionId), ("execution_epoch", .int executionEpoch)])

def fenceDenied (reason : String) : Raised := ⟨.executionFenceDenied, reason⟩

def assertNextExecutionEpoch (previousEpoch : Option Int) (candidateEpoch : Int) :
    Except Raised Unit := do
  let candidate ← requireEpoch (.int candidateEpoch) "candidate_epoch"
  match previousEpoch with
  | none => raiseIf (candidate ≠ 1) (fenceDenied "EXECUTION_EPOCH_TRANSITION_INVALID")
  | some previousEpoch =>
      let previous ← requireEpoch (.int previousEpoch) "previous_epoch"
      raiseIf (candidate ≠ previous + 1) (fenceDenied "EXECUTION_EPOCH_TRANSITION_INVALID")

namespace ExecutionLease

/-- `_claims_without_digest`, apart from version and type. -/
def claims (lease : ExecutionLease) : List (String × Json) :=
  [("lease_id", .str lease.leaseId),
    ("dispatch_id", .str lease.dispatchId),
    ("admission_id", .str lease.admissionId),
    ("admission_digest", .str lease.admissionDigest),
    ("execution_id", .str lease.executionId),
    ("workspace_id", .str lease.workspaceId),
    ("environment", .str lease.environment),
    ("execution_capsule_digest", .str lease.executionCapsuleDigest),
    ("runner_class", .str lease.runnerClass),
    ("execution_epoch", .int lease.executionEpoch),
    ("acquired_at", .str lease.acquiredAt),
    ("expires_at", .str lease.expiresAt),
    ("clock_witness_digest", .str lease.clockWitnessDigest),
    ("lease_revision", .str lease.leaseRevision)]

def ofAttributes (self : Attributes) : ExecutionLease where
  leaseId := self.text "lease_id"
  dispatchId := self.text "dispatch_id"
  admissionId := self.text "admission_id"
  admissionDigest := self.text "admission_digest"
  executionId := self.text "execution_id"
  workspaceId := self.text "workspace_id"
  environment := self.text "environment"
  executionCapsuleDigest := self.text "execution_capsule_digest"
  runnerClass := self.text "runner_class"
  executionEpoch := self.int "execution_epoch"
  acquiredAt := self.text "acquired_at"
  expiresAt := self.text "expires_at"
  clockWitnessDigest := self.text "clock_witness_digest"
  leaseRevision := self.text "lease_revision"
  leaseDigest := self.text "lease_digest"

def contract : Contract ExecutionLease where
  contractType := "execution-lease/v1"
  typeField := "lease_type"
  digestField := "lease_digest"
  mismatch := "lease_digest does not match execution lease"
  attributes :=
    ["lease_id", "dispatch_id", "admission_id", "admission_digest", "execution_id",
      "workspace_id", "environment", "execution_capsule_digest", "runner_class",
      "execution_epoch", "acquired_at", "expires_at", "clock_witness_digest", "lease_revision"].map
      fun field => (field, if field = "execution_epoch" then .integer else .text)
  checks :=
    requireTexts ["execution_id", "workspace_id", "environment", "runner_class",
      "lease_revision"] ++
    requireDigests ["lease_id", "dispatch_id", "admission_id", "admission_digest",
      "execution_capsule_digest", "clock_witness_digest", "lease_digest"] ++
    [requireEpochOf "execution_epoch", .text "acquired_at", .text "expires_at"]
  ofAttributes := ofAttributes
  claims := claims
  digest := leaseDigest
  withDigest lease digest := { lease with leaseDigest := digest }
  check sha256 lease := do
    let acquired ← requireTimestamp (.str lease.acquiredAt) "acquired_at"
    let expires ← requireTimestamp (.str lease.expiresAt) "expires_at"
    raiseIf (expires ≤ acquired) (valueError "expires_at must be after acquired_at")
    raiseIf (expires.milliseconds - acquired.milliseconds > maxLeaseSeconds * 1000)
      (valueError "execution lease exceeds maximum bounded duration")
    raiseIf (lease.leaseId ≠ VoodooOne.leaseId sha256 lease.admissionId lease.executionEpoch)
      (valueError "lease_id does not bind admission and execution epoch")

theorem lawful : contract.Lawful where
  ofAttributes_eq self lease digest same := by
    simp only [contract, claims, List.cons_append, List.nil_append, List.forall_mem_cons] at same
    simp [contract, ofAttributes, Attributes.text, Attributes.int, Json.text?, same]

def createCandidate (sha256 : String → String) (admission : DispatchInboxAdmission)
    (executionEpoch : Int) (clockWitness : ClockWitness) (leaseSeconds : Nat)
    (leaseRevision : String) : Except Raised ExecutionLease := do
  let epoch ← requireEpoch (.int executionEpoch) "execution_epoch"
  raiseIf (leaseSeconds < 1 ∨ maxLeaseSeconds < leaseSeconds)
    (valueError "lease_seconds must be between 1 and 3600")
  let _ ← requireText (.str leaseRevision) "lease_revision"
  raiseIf (clockWitness.environment ≠ admission.environment)
    (fenceDenied "CLOCK_ENVIRONMENT_MISMATCH")
  let acquired ← requireTimestamp (.str clockWitness.observedAt) "clock_witness.observed_at"
  let expires ← orRaise ⟨.overflowError, "date value out of range"⟩
    (acquired.later (leaseSeconds * 1000))
  contract.create sha256
    { leaseId := VoodooOne.leaseId sha256 admission.admissionId epoch
      dispatchId := admission.dispatchId
      admissionId := admission.admissionId
      admissionDigest := admission.admissionDigest
      executionId := admission.executionId
      workspaceId := admission.workspaceId
      environment := admission.environment
      executionCapsuleDigest := admission.executionCapsuleDigest
      runnerClass := admission.runnerClass
      executionEpoch := epoch
      acquiredAt := acquired.isoformat
      expiresAt := expires.isoformat
      clockWitnessDigest := clockWitness.witnessDigest
      leaseRevision
      leaseDigest := "" }

def toDict (lease : ExecutionLease) : Json :=
  contract.toDict lease

def fromDict (sha256 : String → String) (value : Json) : Except Raised ExecutionLease :=
  contract.fromDict sha256 value

/-- The attributes that a lease takes from its admission. -/
def bound (lease : ExecutionLease) : List String :=
  [lease.dispatchId, lease.admissionId, lease.admissionDigest, lease.executionId,
    lease.workspaceId, lease.environment, lease.executionCapsuleDigest, lease.runnerClass]

def assertBoundTo (lease : ExecutionLease) (admission : DispatchInboxAdmission) :
    Except Raised Unit :=
  raiseIf (lease.bound ≠ [admission.dispatchId, admission.admissionId, admission.admissionDigest,
    admission.executionId,
      admission.workspaceId, admission.environment, admission.executionCapsuleDigest,
      admission.runnerClass])
    (fenceDenied "LEASE_ADMISSION_BINDING_MISMATCH")

def assertCompletionFence (lease : ExecutionLease) (currentExecutionEpoch : Int)
    (clockWitness : ClockWitness) : Except Raised Unit := do
  let current ← requireEpoch (.int currentExecutionEpoch) "current_execution_epoch"
  raiseIf (clockWitness.environment ≠ lease.environment) (fenceDenied "CLOCK_ENVIRONMENT_MISMATCH")
  raiseIf (current < lease.executionEpoch) (fenceDenied "EXECUTION_EPOCH_REGRESSION")
  raiseIf (lease.executionEpoch < current) (fenceDenied "STALE_EXECUTION_EPOCH")
  let acquired ← requireTimestamp (.str lease.acquiredAt) "acquired_at"
  let expires ← requireTimestamp (.str lease.expiresAt) "expires_at"
  let observed ← requireTimestamp (.str clockWitness.observedAt) "clock_witness.observed_at"
  raiseIf (observed < acquired) (fenceDenied "CLOCK_BEFORE_LEASE")
  raiseIf (expires ≤ observed) (fenceDenied "LEASE_EXPIRED")

end ExecutionLease

end VoodooOne
