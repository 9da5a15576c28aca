import VoodooOne.Foundation.Clock
import VoodooOne.Foundation.DigestText

/-!
# Identities of runners and verifiers

An identity names a concrete runtime.  Its logical id is a digest of its class, its provider
instance and its environment, and for a verifier of its credential class.
-/

namespace VoodooOne

structure RunnerIdentity where
  (runnerId runnerClass provider providerInstanceId environment rootfsDigest : String)
  (resourceLimitProfileDigest networkPolicyDigest identityRevision identityDigest : String)
deriving DecidableEq

namespace RunnerIdentity

/-- `_claims_without_digest`, apart from version and type. -/
def claims (identity : RunnerIdentity) : List (String × Json) :=
  [("runner_id", .str identity.runnerId),
    ("runner_class", .str identity.runnerClass),
    ("provider", .str identity.provider),
    ("provider_instance_id", .str identity.providerInstanceId),
    ("environment", .str identity.environment),
    ("rootfs_digest", .str identity.rootfsDigest),
    ("resource_limit_profile_digest", .str identity.resourceLimitProfileDigest),
    ("network_policy_digest", .str identity.networkPolicyDigest),
    ("identity_revision", .str identity.identityRevision)]

def logicalIdentity (sha256 : String → String) (identity : RunnerIdentity) : String :=
  digestOf sha256 (.object [("identity_type", .str "runner-logical-identity/v1"),
    ("runner_class", .str identity.runnerClass),
    ("provider", .str identity.provider),
    ("provider_instance_id", .str identity.providerInstanceId),
    ("environment", .str identity.environment)])

def ofAttributes (self : Attributes) : RunnerIdentity where
  runnerId := self.text "runner_id"
  runnerClass := self.text "runner_class"
  provider := self.text "provider"
  providerInstanceId := self.text "provider_instance_id"
  environment := self.text "environment"
  rootfsDigest := self.text "rootfs_digest"
  resourceLimitProfileDigest := self.text "resource_limit_profile_digest"
  networkPolicyDigest := self.text "network_policy_digest"
  identityRevision := self.text "identity_revision"
  identityDigest := self.text "identity_digest"

def contract : Contract RunnerIdentity where
  contractType := "runner-identity/v1"
  typeField := "identity_type"
  digestField := "identity_digest"
  mismatch := "identity_digest does not match RunnerIdentity"
  attributes :=
    ["runner_id", "runner_class", "provider", "provider_instance_id", "environment",
      "rootfs_digest", "resource_limit_profile_digest", "network_policy_digest",
      "identity_revision"].map
      fun field => (field, .text)
  checks :=
    requireDigests ["runner_id", "rootfs_digest", "resource_limit_profile_digest",
      "network_policy_digest", "identity_digest"] ++
    requireTexts ["runner_class", "provider", "provider_instance_id", "identity_revision"] ++
    [.oneOf "environment" validEnvironments "environment is invalid"]
  ofAttributes := ofAttributes
  claims := claims
  digest := identityDigest
  withDigest identity digest := { identity with identityDigest := digest }
  check sha256 identity := raiseIf (identity.runnerId ≠ identity.logicalIdentity sha256)
    (valueError "runner_id does not match logical Runner identity")

theorem lawful : contract.Lawful where
  ofAttributes_eq self identity digest same := by
    simp only [contract, claims, List.cons_append, List.nil_append, List.forall_mem_cons] at same
    simp [contract, ofAttributes, Attributes.text, Json.text?, same]

/-- `create`, from the attributes of `draft`. -/
def create (sha256 : String → String) (draft : RunnerIdentity) : Except Raised RunnerIdentity :=
  contract.create sha256 { draft with runnerId := draft.logicalIdentity sha256 }

end RunnerIdentity

structure VerifierIdentity where
  (verifierId verifierClass provider providerInstanceId environment credentialClass : String)
  (rootfsDigest resourceLimitProfileDigest networkPolicyDigest identityRevision : String)
  identityDigest : String
deriving DecidableEq

namespace VerifierIdentity

/-- `_claims_without_digest`, apart from version and type. -/
def claims (identity : VerifierIdentity) : List (String × Json) :=
  [("verifier_id", .str identity.verifierId),
    ("verifier_class", .str identity.verifierClass),
    ("provider", .str identity.provider),
    ("provider_instance_id", .str identity.providerInstanceId),
    ("environment", .str identity.environment),
    ("credential_class", .str identity.credentialClass),
    ("rootfs_digest", .str identity.rootfsDigest),
    ("resource_limit_profile_digest", .str identity.resourceLimitProfileDigest),
    ("network_policy_digest", .str identity.networkPolicyDigest),
    ("identity_revision", .str identity.identityRevision)]

def logicalIdentity (sha256 : String → String) (identity : VerifierIdentity) : String :=
  digestOf sha256 (.object [("identity_type", .str "verifier-logical-identity/v1"),
    ("verifier_class", .str identity.verifierClass),
    ("provider", .str identity.provider),
    ("provider_instance_id", .str identity.providerInstanceId),
    ("environment", .str identity.environment),
    ("credential_class", .str identity.credentialClass)])

def ofAttributes (self : Attributes) : VerifierIdentity where
  verifierId := self.text "verifier_id"
  verifierClass := self.text "verifier_class"
  provider := self.text "provider"
  providerInstanceId := self.text "provider_instance_id"
  environment := self.text "environment"
  credentialClass := self.text "credential_class"
  rootfsDigest := self.text "rootfs_digest"
  resourceLimitProfileDigest := self.text "resource_limit_profile_digest"
  networkPolicyDigest := self.text "network_policy_digest"
  identityRevision := self.text "identity_revision"
  identityDigest := self.text "identity_digest"

def contract : Contract VerifierIdentity where
  contractType := "verifier-identity/v1"
  typeField := "identity_type"
  digestField := "identity_digest"
  mismatch := "identity_digest does not match VerifierIdentity"
  attributes :=
    ["verifier_id", "verifier_class", "provider", "provider_instance_id", "environment",
      "credential_class", "rootfs_digest", "resource_limit_profile_digest",
      "network_policy_digest", "identity_revision"].map
      fun field => (field, .text)
  checks :=
    requireDigests ["verifier_id", "rootfs_digest", "resource_limit_profile_digest",
      "network_policy_digest", "identity_digest"] ++
    requireTexts ["verifier_class", "provider", "provider_instance_id", "credential_class",
      "identity_revision"] ++
    [.oneOf "environment" validEnvironments "environment is invalid"]
  ofAttributes := ofAttributes
  claims := claims
  digest := identityDigest
  withDigest identity digest := { identity with identityDigest := digest }
  check sha256 identity := raiseIf (identity.verifierId ≠ identity.logicalIdentity sha256)
    (valueError "verifier_id does not match logical Verifier identity")

theorem lawful : contract.Lawful where
  ofAttributes_eq self identity digest same := by
    simp only [contract, claims, List.cons_append, List.nil_append, List.forall_mem_cons] at same
    simp [contract, ofAttributes, Attributes.text, Json.text?, same]

end VerifierIdentity

theorem VerifierIdentity.delimited (identity : VerifierIdentity) :
    ∀ field ∈ VerifierIdentity.contract.claims identity, Delimited (render field.2) := by
  simp only [VerifierIdentity.contract, VerifierIdentity.claims, List.forall_mem_cons,
    delimited_str, true_and]
  exact List.forall_mem_nil _

/-- The texts of a verifier's and a runner's identity differ in the keys that they show. -/
theorem VerifierIdentity.digestText_ne (verifier : VerifierIdentity) (runner : RunnerIdentity) :
    VerifierIdentity.contract.digestText verifier ≠ RunnerIdentity.contract.digestText runner := by
  have verifierNames : (VerifierIdentity.contract.claimFields verifier).map Prod.fst =
      "schema_version" :: "identity_type" :: VerifierIdentity.contract.attributes.map Prod.fst :=
        rfl
  have runnerNames : (RunnerIdentity.contract.claimFields runner).map Prod.fst =
      "schema_version" :: "identity_type" :: RunnerIdentity.contract.attributes.map Prod.fst := rfl
  have text (value : String) : (Json.str value).WellFormed default := .str value
  have version : (Json.int 1).WellFormed default := .int 1 (by decide)
  have verifierEach : ∀ field ∈ VerifierIdentity.contract.claimFields verifier,
      field.2.WellFormed default := by
    simp only [Contract.claimFields, VerifierIdentity.contract, VerifierIdentity.claims,
      List.forall_mem_cons, text, version, true_and]
    exact List.forall_mem_nil _
  have runnerEach : ∀ field ∈ RunnerIdentity.contract.claimFields runner,
      field.2.WellFormed default := by
    simp only [Contract.claimFields, RunnerIdentity.contract, RunnerIdentity.claims,
      List.forall_mem_cons, text, version, true_and]
    exact List.forall_mem_nil _
  have named : "verifier_id" ∈ (VerifierIdentity.contract.claimFields verifier).map Prod.fst := by
    rw [verifierNames]
    decide
  have missing : "verifier_id" ∉ (RunnerIdentity.contract.claimFields runner).map Prod.fst := by
    rw [runnerNames]
    decide
  refine canonicalJson_ne_of_key ?_ ?_ verifierEach runnerEach named missing
  · rw [verifierNames]
    decide
  · rw [runnerNames]
    decide

end VoodooOne
