import VoodooOne.Authorization.Monotonic
import VoodooOne.Credential.Decisions
import VoodooOne.Foundation.StoredForm
import VoodooOne.Operation.Proof
import VoodooOne.ReadTerminal.VerifierSetup

/-!
# Documents of an operation

Grants, dispatches, boundaries, observations, receipts and proofs each have one serialized form.
-/

namespace VoodooOne

structure LawfulContract where
  {α : Type}
  contract : Contract α
  lawful : contract.Lawful

/-- The contracts of the documents between a snapshot and the proof of its operation. -/
def operationContracts : List LawfulContract :=
  [⟨_, AuthorityScope.lawful⟩, ⟨_, AuthorityConstraint.lawful⟩, ⟨_, ExecutionGrantV2.lawful⟩,
    ⟨_, GrantConsumptionWitness.lawful⟩, ⟨_, DispatchOutboxEntry.lawful⟩,
    ⟨_, DispatchInboxAdmission.lawful⟩, ⟨_, RunnerIdentity.lawful⟩,
    ⟨_, GitHubCreateRefConditionContract.lawful⟩, ⟨_, RunnerBoundary.lawful⟩,
    ⟨_, CredentialAccessDecision.lawful⟩, ⟨_, CredentialAccessDecisionV2.lawful⟩,
    ⟨_, IsolatedRuntimeBootstrap.lawful⟩, ⟨_, ReadOnlyRuntimeActivation.lawful⟩,
    ⟨_, GitHubRefObservation.lawful⟩, ⟨_, ExecutionReceiptV2.lawful⟩, ⟨_, VerifierIdentity.lawful⟩,
    ⟨_, IndependentVerificationBoundary.lawful⟩, ⟨_, VerifierCredentialDecision.lawful⟩,
    ⟨_, VerifierGitHubRefObservation.lawful⟩, ⟨_, VerificationStrength.lawful⟩,
    ⟨_, OperationProofV2.lawful⟩]

/-- A built document is read back, and a document that is read has the text of what was read exactly
when its version is the integer. -/
theorem operationDocuments_oneForm (sha256 : String → String) :
    ∀ document ∈ operationContracts, OneForm (document.contract.Built sha256)
      document.contract.toDict (document.contract.fromDict sha256)
      fun json => json.get "schema_version" = .int document.contract.schemaVersion := by
  have short : ∀ document ∈ operationContracts,
      (Nat.toDigits 10 document.contract.schemaVersion.natAbs).length ≤ maxDigits := by
    decide
  exact fun document member => Contract.oneForm document.lawful sha256 (short document member)

end VoodooOne
