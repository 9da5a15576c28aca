import VoodooOne.Evidence.Chain
import VoodooOne.Verification.Boundary
import VoodooOne.Verification.Result

/-!
# Observed state and strength

A verification projects what the verifier read to a state, and classifies how strong the evidence
is.  Both are content-addressed.
-/

namespace VoodooOne

open Calendar

def sequentialReadbackNonAtomic : String := "SEQUENTIAL_READBACK_NON_ATOMIC"

def gitRefStateKind : String := "git_ref"

structure VerificationStrength where
  (strengthClass independenceClass temporalModel : String)
  (targetBindingExact identitySeparation providerInstanceSeparation : Json)
  (credentialSeparation providerReadback atomicReadback : Json)
  effectCeiling : String
  providerMutationAllowed : Json
  (verificationBoundaryDigest verifierObservationDigest strengthRevision : String)
  strengthDigest : String
deriving DecidableEq

namespace VerificationStrength

/-- `_claims_without_digest`, apart from version and type. -/
def claims (strength : VerificationStrength) : List (String × Json) :=
  [("strength_class", .str strength.strengthClass),
    ("independence_class", .str strength.independenceClass),
    ("temporal_model", .str strength.temporalModel),
    ("target_binding_exact", strength.targetBindingExact),
    ("identity_separation", strength.identitySeparation),
    ("provider_instance_separation", strength.providerInstanceSeparation),
    ("credential_separation", strength.credentialSeparation),
    ("provider_readback", strength.providerReadback),
    ("atomic_readback", strength.atomicReadback),
    ("effect_ceiling", .str strength.effectCeiling),
    ("provider_mutation_allowed", strength.providerMutationAllowed),
    ("verification_boundary_digest", .str strength.verificationBoundaryDigest),
    ("verifier_observation_digest", .str strength.verifierObservationDigest),
    ("strength_revision", .str strength.strengthRevision)]

def ofAttributes (self : Attributes) : VerificationStrength where
  strengthClass := self.text "strength_class"
  independenceClass := self.text "independence_class"
  temporalModel := self.text "temporal_model"
  targetBindingExact := self "target_binding_exact"
  identitySeparation := self "identity_separation"
  providerInstanceSeparation := self "provider_instance_separation"
  credentialSeparation := self "credential_separation"
  providerReadback := self "provider_readback"
  atomicReadback := self "atomic_readback"
  effectCeiling := self.text "effect_ceiling"
  providerMutationAllowed := self "provider_mutation_allowed"
  verificationBoundaryDigest := self.text "verification_boundary_digest"
  verifierObservationDigest := self.text "verifier_observation_digest"
  strengthRevision := self.text "strength_revision"
  strengthDigest := self.text "strength_digest"

def contract : Contract VerificationStrength where
  contractType := "verification-strength/v1"
  typeField := "strength_type"
  digestField := "strength_digest"
  mismatch := "strength_digest does not match VerificationStrength"
  attributes :=
    ["strength_class", "independence_class", "temporal_model", "target_binding_exact",
      "identity_separation", "provider_instance_separation", "credential_separation",
      "provider_readback", "atomic_readback", "effect_ceiling", "provider_mutation_allowed",
      "verification_boundary_digest", "verifier_observation_digest", "strength_revision"].map
      fun field => (field, if field ∈ ["target_binding_exact", "identity_separation",
        "provider_instance_separation", "credential_separation", "provider_readback",
        "atomic_readback", "provider_mutation_allowed"] then .any else .text)
  checks :=
    requireTexts ["strength_class", "independence_class", "temporal_model", "effect_ceiling",
      "strength_revision"] ++
    requireDigests ["verification_boundary_digest", "verifier_observation_digest",
      "strength_digest"] ++
    [.equals "strength_class" independentProviderReadback
        "verification strength class is unsupported",
      .equals "independence_class" VoodooOne.independenceClass
        "verification independence class is unsupported",
      .equals "temporal_model" sequentialReadbackNonAtomic
        "verification temporal model is unsupported"] ++
    (["target_binding_exact", "identity_separation", "provider_instance_separation",
      "credential_separation", "provider_readback"].map fun field =>
        .satisfies field (requireTruth true (field ++ " must be true"))) ++
    [.satisfies "atomic_readback" (requireTruth false "atomic_readback must be false for E4 R1"),
      .equals "effect_ceiling" readOnlyEffectClass
        "verification effect ceiling must be READ_ONLY",
      .satisfies "provider_mutation_allowed"
        (requireTruth false "verification cannot mutate providers")]
  ofAttributes := ofAttributes
  claims := claims
  digest := strengthDigest
  withDigest strength digest := { strength with strengthDigest := digest }
  check _ _ := .ok ()

theorem lawful : contract.Lawful where
  ofAttributes_eq self strength digest same := by
    simp only [contract, claims, List.cons_append, List.nil_append, List.forall_mem_cons] at same
    simp [contract, ofAttributes, Attributes.text, Json.text?, same]

/-- The claims of `create`. -/
def readbackDraft (verificationBoundaryDigest verifierObservationDigest strengthRevision : String) :
    VerificationStrength where
  strengthClass := independentProviderReadback
  independenceClass := VoodooOne.independenceClass
  temporalModel := sequentialReadbackNonAtomic
  targetBindingExact := .bool true
  identitySeparation := .bool true
  providerInstanceSeparation := .bool true
  credentialSeparation := .bool true
  providerReadback := .bool true
  atomicReadback := .bool false
  effectCeiling := readOnlyEffectClass
  providerMutationAllowed := .bool false
  verificationBoundaryDigest
  verifierObservationDigest
  strengthRevision
  strengthDigest := ""

def create (sha256 : String → String) (verificationBoundaryDigest verifierObservationDigest
    strengthRevision : String) : Except Raised VerificationStrength :=
  contract.create sha256
    (readbackDraft verificationBoundaryDigest verifierObservationDigest strengthRevision)

def ofReadback (sha256 : String → String) (verificationBoundaryDigest verifierObservationDigest
    strengthRevision : String) : VerificationStrength :=
  let draft := readbackDraft verificationBoundaryDigest verifierObservationDigest strengthRevision
  contract.withDigest draft (digestOf sha256 (contract.claimsWithoutDigest draft))

theorem create_readback {sha256 : Sha256} {boundary observation revision : String}
    (boundaryDigest : IsDigest boundary) (observationDigest : IsDigest observation)
    (valid : ValidText revision) : create sha256.hexdigest boundary observation revision =
      .ok (ofReadback sha256.hexdigest boundary observation revision) := by
  refine Contract.create_of_holds lawful _ _ rfl (fun self reads => ?_) rfl
  simp only [contract, Contract.fieldsWith, Contract.claimFields, claims, readbackDraft,
    List.cons_append, List.nil_append, List.forall_mem_cons] at reads
  simp only [contract, requireTexts, requireDigests, requireTruth, List.map_cons, List.map_nil,
    List.cons_append, List.nil_append, List.forall_mem_cons, AttributeCheck.Holds, Attributes.text,
    Json.text?, reads, Option.getD_some, true_and, raiseIf_eq_ok, not_not, and_true]
  exact ⟨(by decide : ValidText independentProviderReadback),
    (by decide : ValidText VoodooOne.independenceClass),
    (by decide : ValidText sequentialReadbackNonAtomic),
    (by decide : ValidText readOnlyEffectClass), valid,
    ⟨validText_of_isDigest boundaryDigest, boundaryDigest⟩,
    ⟨validText_of_isDigest observationDigest, observationDigest⟩,
    ⟨validText_of_isDigest (sha256.isDigest _), sha256.isDigest _⟩, List.forall_mem_nil _⟩

end VerificationStrength

structure ObservedPostState where
  executionId : String
  executionEpoch : Int
  (targetDigest stateKind : String)
  stateClaims : List (String × String)
  (provider providerInstanceId sourceIdentity verifierId verifierIdentityDigest : String)
  (verificationBoundaryDigest verifierObservationDigest observedAt stateRevision : String)
  stateDigest : String
deriving DecidableEq

namespace ObservedPostState

/-- The order of `sorted` on pairs. -/
def PairLe (left right : String × String) : Prop := [left.1, left.2] ≤ [right.1, right.2]

instance : DecidableRel PairLe := fun left right =>
  inferInstanceAs (Decidable ([left.1, left.2] ≤ [right.1, right.2]))

/-- `_claims_without_digest`. -/
def claims (state : ObservedPostState) : Json :=
  .object [("schema_version", .int 1),
    ("observed_post_state_type", .str "observed-post-state/v1"),
    ("execution_id", .str state.executionId),
    ("execution_epoch", .int state.executionEpoch),
    ("target_digest", .str state.targetDigest),
    ("state_kind", .str state.stateKind),
    ("state_claims", .object (state.stateClaims.map fun claim => (claim.1, .str claim.2))),
    ("provider", .str state.provider),
    ("provider_instance_id", .str state.providerInstanceId),
    ("source_identity", .str state.sourceIdentity),
    ("verifier_id", .str state.verifierId),
    ("verifier_identity_digest", .str state.verifierIdentityDigest),
    ("verification_boundary_digest", .str state.verificationBoundaryDigest),
    ("verifier_observation_digest", .str state.verifierObservationDigest),
    ("observed_at", .str state.observedAt),
    ("state_revision", .str state.stateRevision)]

/-- The loop over claims: both of a pair are texts. -/
def requireClaims (claims : List (String × String)) : Except Raised Unit :=
  forEach (fun claim => do
    let _ ← requireText (.str claim.1) "state_claims key"
    let _ ← requireText (.str claim.2) ("state_claims['" ++ claim.1 ++ "']")) claims

def stateClaimsFromMapping (claims : List (String × String)) :
    Except Raised (List (String × String)) := do
  raiseIf (claims = []) (valueError "state_claims must be a non-empty object")
  requireClaims claims
  let ordered := claims.insertionSort PairLe
  raiseIf (¬(ordered.map Prod.fst).Nodup) (valueError "state_claims keys must be unique")
  return ordered

def textFields (state : ObservedPostState) : List (String × String) :=
  [("execution_id", state.executionId), ("state_kind", state.stateKind),
    ("provider", state.provider), ("provider_instance_id", state.providerInstanceId),
    ("source_identity", state.sourceIdentity), ("state_revision", state.stateRevision)]

def digestFields (state : ObservedPostState) : List (String × String) :=
  [("target_digest", state.targetDigest), ("verifier_id", state.verifierId),
    ("verifier_identity_digest", state.verifierIdentityDigest),
    ("verification_boundary_digest", state.verificationBoundaryDigest),
    ("verifier_observation_digest", state.verifierObservationDigest)]

def postInit (sha256 : String → String) (state : ObservedPostState) : Except Raised Unit := do
  requireTextFields state.textFields
  requireDigestFields (state.digestFields ++ [("state_digest", state.stateDigest)])
  raiseIf (state.executionEpoch < 1) (valueError "execution_epoch must be >= 1")
  raiseIf (state.stateClaims = []) (valueError "state_claims must not be empty")
  raiseIf (state.stateClaims.insertionSort PairLe ≠ state.stateClaims)
    (valueError "state_claims must be canonical and sorted")
  requireClaims state.stateClaims
  raiseIf (¬(state.stateClaims.map Prod.fst).Nodup) (valueError "state_claims keys must be unique")
  let _ ← requireTimestamp (.str state.observedAt) "observed_at"
  raiseIf (state.stateDigest ≠ digestOf sha256 state.claims)
    (valueError "state_digest does not match ObservedPostState")

/-- `create`, from a draft with the claims as they are given. -/
def create (sha256 : String → String) (draft : ObservedPostState) :
    Except Raised ObservedPostState := do
  let stateClaims ← stateClaimsFromMapping draft.stateClaims
  let state := { draft with stateClaims }
  let state := { state with stateDigest := digestOf sha256 state.claims }
  postInit sha256 state
  return state

variable {sha256 : String → String} {draft state : ObservedPostState}
  {claims ordered : List (String × String)}

theorem requireClaims_eq_ok {result : Unit} : requireClaims claims = .ok result ↔
    ∀ claim ∈ claims, ValidText claim.1 ∧ ValidText claim.2 := by
  simp only [requireClaims, forEach_eq_ok, bind_eq_ok, requireText_eq_ok, pure_eq_ok,
    Json.str.injEq]
  refine forall₂_congr fun claim _ => ⟨?_, ?_⟩
  · rintro ⟨_, ⟨rfl, key⟩, _, ⟨rfl, value⟩, -⟩
    exact ⟨key, value⟩
  · rintro ⟨key, value⟩
    exact ⟨_, ⟨rfl, key⟩, _, ⟨rfl, value⟩, trivial⟩

theorem stateClaimsFromMapping_eq_ok : stateClaimsFromMapping claims = .ok ordered ↔
    claims ≠ [] ∧ (∀ claim ∈ claims, ValidText claim.1 ∧ ValidText claim.2) ∧
      (claims.map Prod.fst).Nodup ∧ ordered = claims.insertionSort PairLe := by
  have keys : ((claims.insertionSort PairLe).map Prod.fst).Perm (claims.map Prod.fst) :=
    (claims.perm_insertionSort PairLe).map Prod.fst
  simp only [stateClaimsFromMapping, bind_eq_ok, raiseIf_eq_ok, not_not, requireClaims_eq_ok,
    pure_eq_ok, keys.nodup_iff]
  constructor
  · rintro ⟨_, nonempty, _, texts, _, distinct, rfl⟩
    exact ⟨nonempty, texts, distinct, rfl⟩
  · rintro ⟨nonempty, texts, distinct, rfl⟩
    exact ⟨(), nonempty, (), texts, (), distinct, rfl⟩

theorem ordered_again (claims : List (String × String)) :
    (claims.insertionSort PairLe).insertionSort PairLe = claims.insertionSort PairLe := by
  have total : Std.Total PairLe := ⟨fun left right => le_total [left.1, left.2] [right.1, right.2]⟩
  have trans : IsTrans (String × String) PairLe := ⟨fun _ _ _ first second => le_trans first second⟩
  exact (List.pairwise_insertionSort PairLe claims).insertionSort_eq

structure Valid (draft : ObservedPostState) : Prop where
  texts : ∀ named ∈ draft.textFields, ValidText named.2
  digests : ∀ named ∈ draft.digestFields, IsDigest named.2
  epoch : 1 ≤ draft.executionEpoch
  nonempty : draft.stateClaims ≠ []
  claims : ∀ claim ∈ draft.stateClaims, ValidText claim.1 ∧ ValidText claim.2
  distinct : (draft.stateClaims.map Prod.fst).Nodup
  observedAt : ∃ instant : Instant, draft.observedAt = instant.isoformat ∧
    ValidText instant.isoformat

/-- The state of a draft: its claims in order, and the digest of all of it. -/
def sealed (sha256 : String → String) (draft : ObservedPostState) : ObservedPostState :=
  { draft with
    stateClaims := draft.stateClaims.insertionSort PairLe
    stateDigest := digestOf sha256
      (ObservedPostState.claims { draft with
        stateClaims := draft.stateClaims.insertionSort PairLe }) }

/-- A draft is created exactly when it passes the checks. -/
theorem create_eq_ok (sha256 : Sha256) : create sha256.hexdigest draft = .ok state ↔
    draft.Valid ∧ state = draft.sealed sha256.hexdigest := by
  have perm := draft.stateClaims.perm_insertionSort PairLe
  simp only [create, bind_eq_ok, stateClaimsFromMapping_eq_ok, postInit, requireTextFields_eq_ok,
    requireDigestFields_eq_ok, raiseIf_eq_ok, not_not, requireClaims_eq_ok, requireTimestamp_eq_ok,
    pure_eq_ok, Json.str.injEq]
  constructor
  · rintro ⟨_, ⟨nonempty, claims, distinct, rfl⟩, _, ⟨_, texts, _, digests, _, epoch, _, -, _, -, _,
      -, _, -, instant, ⟨isTime, valid⟩, -⟩, rfl⟩
    exact ⟨⟨texts, fun named member => digests named (List.mem_append_left _ member),
      not_lt.mp epoch, nonempty, claims, distinct, instant, isTime, valid⟩, rfl⟩
  · rintro ⟨valid, rfl⟩
    obtain ⟨instant, isTime, isValid⟩ := valid.observedAt
    refine ⟨_, ⟨valid.nonempty, valid.claims, valid.distinct, rfl⟩, (), ⟨(), valid.texts, (), ?_,
      (), not_lt.mpr valid.epoch, (), ?_, (), ordered_again _, (), ?_, (), ?_, instant,
      ⟨isTime, isValid⟩, rfl⟩, rfl⟩
    · intro named member
      rcases List.mem_append.mp member with own | last
      · exact valid.digests named own
      · obtain rfl := List.mem_singleton.mp last
        exact sha256.isDigest _
    · intro empty
      exact valid.nonempty (List.perm_nil.mp (empty ▸ perm).symm)
    · exact fun claim member => valid.claims claim (perm.mem_iff.mp member)
    · exact (perm.map Prod.fst).nodup_iff.mpr valid.distinct

end ObservedPostState

end VoodooOne
