import VoodooOne.Authorization.Snapshot
import VoodooOne.Lease.ExecutionLease

/-!
# Prepared executions

What the pipeline hands to a terminal: the chain from the snapshot to the lease, with its digests.
-/

namespace VoodooOne

def readOnlyTerminalProfile : String := "READ_ONLY_VERIFIED"

def boundedMutationTerminalProfile : String := "BOUNDED_MUTATION_VERIFIED"

structure CanonicalPreparedExecution where
  (terminalProfile terminalProfileBindingDigest executionId requestId capability : String)
  (capabilityDefinitionIdentity environment targetDigest authorizationSnapshotDigest : String)
  (grantDigest grantJti outboxEntryDigest envelopeDigest admissionDigest : String)
  (leaseId leaseDigest : String)
  executionEpoch : Int
  executionCapsuleDigest : String
  snapshot : AuthorizationSnapshot
  grant : ExecutionGrantV2
  outbox : DispatchOutboxEntry
  envelope : DispatchEnvelope
  admission : DispatchInboxAdmission
  lease : ExecutionLease

def CanonicalPreparedExecution.postInit (prepared : CanonicalPreparedExecution) :
    Except Raised Unit := do
  raiseIf (prepared.terminalProfile ∉ [readOnlyTerminalProfile, boundedMutationTerminalProfile])
    (valueError "terminal_profile is unsupported")
  requireTextFields
    [("execution_id", prepared.executionId), ("request_id", prepared.requestId),
      ("capability", prepared.capability), ("environment", prepared.environment),
      ("grant_jti", prepared.grantJti)]
  requireDigestFields
    [("terminal_profile_binding_digest", prepared.terminalProfileBindingDigest),
      ("capability_definition_identity", prepared.capabilityDefinitionIdentity),
      ("target_digest", prepared.targetDigest),
      ("authorization_snapshot_digest", prepared.authorizationSnapshotDigest),
      ("grant_digest", prepared.grantDigest),
      ("outbox_entry_digest", prepared.outboxEntryDigest),
      ("envelope_digest", prepared.envelopeDigest),
      ("admission_digest", prepared.admissionDigest),
      ("lease_id", prepared.leaseId),
      ("lease_digest", prepared.leaseDigest),
      ("execution_capsule_digest", prepared.executionCapsuleDigest)]
  let _ ← requireEpoch (.int prepared.executionEpoch) "execution_epoch"

end VoodooOne
