import VoodooOne.Foundation.DigestText
import VoodooOne.Foundation.Raises
import VoodooOne.Lease.ExecutionLease
import VoodooOne.Runtime.Capability

/-!
# Kinds of stored documents

The contracts of a lineage and its two kinds of witnesses, as kinds of documents.  None of their
decoders raises anything but a value or a type error.
-/

namespace VoodooOne

open Calendar

/-- How the documents of one kind are written and read. -/
structure DocumentKind (α : Type) where
  /-- The fields under the digest. -/
  claimFields : α → List (String × Json)
  digestField : String
  digest : α → String
  fromDict : Json → Except Raised α

def Caught (classes : List ExceptionClass) (error : Raised) : Prop :=
  classes.any error.cls.isA = true

theorem raises_caught {α : Type} {classes : List ExceptionClass} {replacement : Raised}
    {body : Except Raised α} (raises : Raises (Caught classes) body) :
    Raises (· = replacement) (catching classes replacement body) := by
  cases body with
  | ok value => exact raises_ok value
  | error error =>
      have caught : classes.any error.cls.isA = true := raises error rfl
      rw [catching, if_pos caught]
      exact raises_error rfl

/-- The exceptions that a decoder of stored values catches. -/
def decodeErrors : List ExceptionClass := [.keyError, .typeError, .valueError]

theorem caught_value (message : String) : Caught decodeErrors (valueError message) := rfl

theorem caught_type (message : String) : Caught decodeErrors ⟨.typeError, message⟩ := rfl

/-- `CanonicalOperationResumeDenied`. -/
def resumeDenied (reason : String) : Raised := ⟨.canonicalOperationResumeDenied, reason⟩

namespace DocumentKind

variable {α : Type} (kind : DocumentKind α)

def toDict (value : α) : Json :=
  .object (kind.claimFields value ++ [(kind.digestField, .str (kind.digest value))])

def digestText (value : α) : String := canonicalJson (.object (kind.claimFields value))

/-- What the documents of a kind have in common. -/
structure Lawful (sha256 : String → String) : Prop where
  names : ∀ left right,
    (kind.claimFields left).map Prod.fst = (kind.claimFields right).map Prod.fst
  distinct : ∀ value, ((kind.claimFields value).map Prod.fst).Nodup
  delimited : ∀ value, ∀ field ∈ kind.claimFields value, Delimited (render field.2)
  digested : ∀ document value, kind.fromDict document = .ok value →
    kind.digest value = sha256 (kind.digestText value)
  raises : ∀ document, Raises (Caught decodeErrors) (kind.fromDict document)

def decodeValue (floats : FloatRepr) (artifact encoded : String) : Except Raised α :=
  catching decodeErrors (resumeDenied (artifact ++ "_ROW_INVALID")) do
    let raw ← orRaise (valueError "stored JSON cannot be decoded") (loads floats encoded)
    raiseIf (raw.keys = none) (valueError "stored JSON is not an object")
    raiseIf (canonicalJson raw ≠ encoded) (valueError "stored JSON is not canonical")
    let value ← kind.fromDict raw
    raiseIf (canonicalJson (kind.toDict value) ≠ encoded)
      (valueError "decoded object does not match stored JSON")
    return value

variable {kind} {floats : FloatRepr} {sha256 : String → String} {artifact encoded other : String}
  {value left right : α}

theorem decodeValue_eq_ok (decoded : kind.decodeValue floats artifact encoded = .ok value) :
    encoded = canonicalJson (kind.toDict value) ∧ ∃ raw, kind.fromDict raw = .ok value := by
  simp only [decodeValue, catching_eq_ok, bind_eq_ok, raiseIf_eq_ok, not_not, pure_eq_ok] at decoded
  obtain ⟨raw, _, _, _, _, _, _, read, _, written, rfl⟩ := decoded
  exact ⟨written.symm, raw, read⟩

theorem canonicalJson_eq_of_fieldTexts {left right : List (String × Json)}
    (same : fieldTexts left = fieldTexts right) :
    canonicalJson (.object left) = canonicalJson (.object right) := by
  have texts : fieldTexts (left.insertionSort Json.keyLe) =
    fieldTexts (right.insertionSort Json.keyLe) := by
    rw [sort_fieldTexts, sort_fieldTexts, same]
  rw [canonicalJson, canonicalJson, render_object, render_object]
  simp only [fieldTexts] at texts
  rw [texts]

theorem stored_or_collision (lawful : kind.Lawful sha256)
    (leftRead : kind.decodeValue floats artifact encoded = .ok left)
    (rightRead : kind.decodeValue floats artifact other = .ok right)
    (digests : kind.digest left = kind.digest right) :
    encoded = other ∨ Collision sha256 (kind.digestText left) (kind.digestText right) := by
  obtain ⟨rfl, _, leftFrom⟩ := decodeValue_eq_ok leftRead
  obtain ⟨rfl, _, rightFrom⟩ := decodeValue_eq_ok rightRead
  by_cases texts : kind.digestText left = kind.digestText right
  · left
    have fields := fieldTexts_of_canonicalJson texts (lawful.names left right)
      (lawful.distinct left) (lawful.delimited left) (lawful.delimited right)
    apply canonicalJson_eq_of_fieldTexts
    rw [digests]
    simpa [fieldTexts] using fields
  · right
    refine ⟨texts, ?_⟩
    rw [← lawful.digested _ _ leftFrom, ← lawful.digested _ _ rightFrom, digests]

theorem raises_decodeValue (lawful : kind.Lawful sha256) :
    Raises (· = resumeDenied (artifact ++ "_ROW_INVALID"))
      (kind.decodeValue floats artifact encoded) := by
  exact raises_caught <| (raises_orRaise (caught_value _) _).bind fun raw =>
    (raises_raiseIf (caught_value _)).bind fun _ => (raises_raiseIf (caught_value _)).bind fun _ =>
      (lawful.raises raw).bind fun _ => (raises_raiseIf (caught_value _)).bind fun _ =>
        raises_pure _

end DocumentKind

namespace AttributeCheck

variable {allowed : Raised → Prop} {self : Attributes}

/-- A check raises a value error, apart from the error of a value that has no hash, and from what
its own condition raises. -/
theorem raises_perform (values : ∀ message, allowed (valueError message)) {check : AttributeCheck}
    (unhashable : ∀ field options message, check = .oneOf field options message →
      ∀ text, allowed ⟨.typeError, text⟩)
    (conditions : ∀ field condition, check = .satisfies field condition →
      Raises allowed (condition (self field))) : Raises allowed (check.perform self) := by
  cases check with
  | text field => exact (raises_requireText values _ _).bind fun _ => raises_pure _
  | digest field => exact (raises_requireDigest values _ _).bind fun _ => raises_pure _
  | timestamp field => exact (raises_requireTimestamp values _ _).bind fun _ => raises_pure _
  | integer field minimum message =>
      simp only [perform]
      split
      · exact raises_raiseIf (values _)
      · exact raises_error (values _)
  | equals field expected message => exact raises_raiseIf (values _)
  | oneOf field options message =>
      simp only [perform]
      split
      · exact raises_raiseIf (values _)
      · exact raises_error (unhashable field options message rfl _)
      · exact raises_error (unhashable field options message rfl _)
      · exact raises_error (values _)
  | satisfies field condition => exact conditions field condition rfl

theorem raises_performAll (values : ∀ message, allowed (valueError message))
    {checks : List AttributeCheck}
    (unhashable : ∀ field options message, oneOf field options message ∈ checks →
      ∀ text, allowed ⟨.typeError, text⟩)
    (conditions : ∀ field condition, satisfies field condition ∈ checks →
      Raises allowed (condition (self field))) : Raises allowed (performAll self checks) := by
  induction checks with
  | nil => exact raises_ok _
  | cons check checks induction =>
      refine (raises_perform values (fun field options message same => ?_)
        fun field condition same => ?_).bind fun _ =>
          induction (fun field options message member => ?_) fun field condition member => ?_
      · exact unhashable field options message (same ▸ List.mem_cons_self ..)
      · exact conditions field condition (same ▸ List.mem_cons_self ..)
      · exact unhashable field options message (List.mem_cons_of_mem _ member)
      · exact conditions field condition (List.mem_cons_of_mem _ member)

end AttributeCheck

namespace Contract

variable {α : Type} (contract : Contract α) (sha256 : String → String)

def documentKind : DocumentKind α where
  claimFields := contract.claimFields
  digestField := contract.digestField
  digest := contract.digest
  fromDict := contract.fromDict sha256

variable {contract} {sha256}

theorem raises_fromDict (plain : ∀ check ∈ contract.checks, check.kind ≠ .any)
    (conditions : ∀ value, Raises (Caught decodeErrors) (contract.check sha256 value))
    (document : Json) :
    Raises (Caught decodeErrors) (contract.fromDict sha256 document) := by
  refine (raises_requireExactFields caught_value _ _ _).bind fun _ =>
    (raises_raiseIf (caught_value _)).bind fun _ => ?_
  refine (AttributeCheck.raises_performAll caught_value
    (fun _ _ _ _ => caught_type) fun field condition member => ?_).bind fun _ =>
    (conditions _).bind fun _ => (raises_raiseIf (caught_value _)).bind fun _ => raises_pure _
  exact absurd rfl (plain _ member)

theorem lawful_documentKind (lawful : contract.Lawful)
    (delimited : ∀ value, ∀ field ∈ contract.claims value, Delimited (render field.2))
    (plain : ∀ check ∈ contract.checks, check.kind ≠ .any)
    (conditions : ∀ value, Raises (Caught decodeErrors) (contract.check sha256 value)) :
    (contract.documentKind sha256).Lawful sha256 where
  names left right := by
    simp only [documentKind, claimFields, List.map_cons, lawful.names]
  distinct value := by
    have names : (contract.claimFields value).map Prod.fst =
        "schema_version" :: contract.typeField :: contract.attributes.map Prod.fst := by
      rw [claimFields, List.map_cons, List.map_cons, lawful.names value]
    rw [documentKind, names]
    exact (List.sublist_append_left _ [contract.digestField]).nodup lawful.distinct
  delimited value := by
    simp only [documentKind, claimFields, List.forall_mem_cons]
    exact ⟨delimited_int _, delimited_str _, delimited value⟩
  digested document value read := Built.digest_eq ⟨_, construct_of_fromDict read⟩
  raises := raises_fromDict plain conditions

end Contract

theorem ExecutionGrantV2.lawful_documentKind (sha256 : String → String) :
    (contract.documentKind sha256).Lawful sha256 := by
  refine Contract.lawful_documentKind lawful (fun grant => ?_) (by decide) fun grant => ?_
  · simp [contract, claims, delimited_str, delimited_int]
  · have time (text field : String) : Raises (Caught decodeErrors)
      (requireTimestamp (.str text) field) :=
      raises_requireTimestamp caught_value _ _
    exact (time _ _).bind fun _ => (time _ _).bind fun _ => (time _ _).bind fun _ =>
      (raises_raiseIf (caught_value _)).bind fun _ =>
        (raises_raiseIf (caught_value _)).bind fun _ =>
          (raises_raiseIf (caught_value _)).bind fun _ => raises_raiseIf (caught_value _)

theorem GrantConsumptionWitness.lawful_documentKind (sha256 : String → String) :
    (contract.documentKind sha256).Lawful sha256 := by
  refine Contract.lawful_documentKind lawful (fun witness => ?_) (by decide) fun _ => raises_ok _
  simp [contract, claims, delimited_str, delimited_int]

theorem raises_dispatchConditions {allowed : Raised → Prop}
    (values : ∀ message, allowed (valueError message))
    (permission semantics enforcement time timeField : String) :
    Raises allowed (dispatchConditions permission semantics enforcement time timeField) :=
  (raises_requireTimestamp values _ _).bind fun _ => (raises_raiseIf (values _)).bind fun _ =>
    (raises_raiseIf (values _)).bind fun _ => raises_raiseIf (values _)

theorem DispatchOutboxEntry.lawful_documentKind (sha256 : String → String) :
    (contract.documentKind sha256).Lawful sha256 := by
  refine Contract.lawful_documentKind lawful (fun entry => ?_) (by decide) fun _ =>
    raises_dispatchConditions caught_value _ _ _ _ _
  simp [contract, claims, delimited_str]

theorem DispatchInboxAdmission.lawful_documentKind (sha256 : String → String) :
    (contract.documentKind sha256).Lawful sha256 := by
  refine Contract.lawful_documentKind lawful (fun admission => ?_) (by decide) fun _ =>
    raises_raiseIf (caught_value _)
  simp [contract, claims, delimited_str]

theorem ExecutionLease.lawful_documentKind (sha256 : String → String) :
    (contract.documentKind sha256).Lawful sha256 := by
  refine Contract.lawful_documentKind lawful (fun lease => ?_) (by decide) fun lease => ?_
  · simp [contract, claims, delimited_str, delimited_int]
  · have time (text field : String) : Raises (Caught decodeErrors)
      (requireTimestamp (.str text) field) :=
      raises_requireTimestamp caught_value _ _
    exact (time _ _).bind fun _ => (time _ _).bind fun _ =>
      (raises_raiseIf (caught_value _)).bind fun _ =>
        (raises_raiseIf (caught_value _)).bind fun _ => raises_raiseIf (caught_value _)

namespace ClockWitness

def requireCanonicalMoment : Json → Except Raised Unit
  | .str text => do
      let _ ← orRaise (valueError "observed_at must use canonical UTC millisecond form")
        (Instant.ofIsoformat? text)
  | _ => .error ⟨.typeError, "fromisoformat: argument must be str"⟩

/-- `_require_digest` of the clock. -/
def requireLowercaseDigest : Json → Except Raised Unit
  | .str text => raiseIf (¬IsDigest text)
      (valueError "witness_digest must be a lowercase SHA-256 digest")
  | _ => .error (valueError "witness_digest must be a lowercase SHA-256 digest")

/-- The checks of `__post_init__`, before the digest is compared. -/
def checks : List AttributeCheck :=
  [.text "source_identity", .text "authority_revision",
    .oneOf "environment" validEnvironments "environment is invalid",
    .satisfies "observed_at" requireCanonicalMoment,
    .satisfies "witness_digest" requireLowercaseDigest]

def ofAttributes (self : Attributes) : ClockWitness where
  sourceIdentity := self.text "source_identity"
  authorityRevision := self.text "authority_revision"
  environment := self.text "environment"
  observedAt := self.text "observed_at"
  witnessDigest := self.text "witness_digest"

/-- `_decode_clock_witness`. -/
def decode (sha256 : String → String) (value : Json) : Except Raised ClockWitness := do
  catching [.valueError] (valueError "clock witness schema or type is unsupported")
    (requireExactFields value ["witness_type", "source_identity", "authority_revision",
      "environment", "observed_at", "witness_digest"] "clock witness")
  raiseIf (value.get "witness_type" ≠ .str "clock-witness/v1")
    (valueError "clock witness schema or type is unsupported")
  AttributeCheck.performAll value.get checks
  let witness := ofAttributes value.get
  raiseIf (witness.witnessDigest ≠ digestOf sha256 witness.claimsWithoutDigest)
    (valueError "witness_digest does not match clock witness")
  return witness

def documentKind (sha256 : String → String) : DocumentKind ClockWitness where
  claimFields := claimFields
  digestField := "witness_digest"
  digest := witnessDigest
  fromDict := decode sha256

theorem lawful_documentKind (sha256 : String → String) : (documentKind sha256).Lawful sha256 where
  names _ _ := rfl
  distinct witness := by simp [documentKind, claimFields]
  delimited witness := by
    simp only [documentKind, claimFields, List.forall_mem_cons]
    exact ⟨delimited_str _, delimited_str _, delimited_str _, delimited_str _, delimited_str _,
      List.forall_mem_nil _⟩
  digested document value read := by
    simp only [documentKind, decode, bind_eq_ok, raiseIf_eq_ok, not_not, pure_eq_ok] at read
    obtain ⟨_, _, _, _, _, _, _, digest, rfl⟩ := read
    exact digest
  raises document := by
    refine ((raises_requireExactFields caught_value _ _ _).catching
      (caught_value _)).bind fun _ => (raises_raiseIf (caught_value _)).bind fun _ => ?_
    refine (AttributeCheck.raises_performAll caught_value
    (fun _ _ _ _ => caught_type) fun field condition member => ?_).bind fun _ =>
      (raises_raiseIf (caught_value _)).bind fun _ => raises_pure _
    simp only [checks, List.mem_cons, reduceCtorEq, AttributeCheck.satisfies.injEq, false_or,
      List.not_mem_nil, or_false] at member
    rcases member with ⟨rfl, rfl⟩ | ⟨rfl, rfl⟩
    · unfold requireCanonicalMoment
      split
      · exact (raises_orRaise (caught_value _) _).bind fun _ => raises_pure _
      · exact raises_error (caught_type _)
    · unfold requireLowercaseDigest
      split
      · exact raises_raiseIf (caught_value _)
      · exact raises_error (caught_value _)

end ClockWitness

namespace ExecutionConformanceWitness

/-- `_claims_without_digest`. -/
def claimFields (witness : ExecutionConformanceWitness) : List (String × Json) :=
  [("schema_version", .int 1),
    ("witness_type", .str "execution-conformance-witness/v1"),
    ("grant_digest", .str witness.grantDigest),
    ("execution_binding_digest", .str witness.executionBindingDigest),
    ("execution_capsule_digest", .str witness.executionCapsuleDigest),
    ("capability_definition_identity", .str witness.capabilityDefinitionIdentity),
    ("capability_activation_digest", .str witness.capabilityActivationDigest),
    ("capsule_activation_digest", .str witness.capsuleActivationDigest),
    ("handler_conformance_evidence_digest", .str witness.handlerConformanceEvidenceDigest),
    ("target_kind", .str witness.targetKind),
    ("runner_class", .str witness.runnerClass),
    ("handler_id", .str witness.handlerId),
    ("handler_digest", .str witness.handlerDigest),
    ("credential_class", .str witness.credentialClass),
    ("precondition_enforcement_class", .str witness.preconditionEnforcementClass),
    ("verification_contract_identity", .str witness.verificationContractIdentity),
    ("atomic_provider_condition_contract_identity",
      witness.atomicProviderConditionContractIdentity.elim .null .str),
    ("conformance_authority_revision", .str witness.conformanceAuthorityRevision)]

/-- The checks of `__post_init__` of single attributes. -/
def checks : List AttributeCheck :=
  requireDigests ["grant_digest", "execution_binding_digest", "execution_capsule_digest",
      "capability_definition_identity", "capability_activation_digest",
      "capsule_activation_digest", "handler_conformance_evidence_digest", "handler_digest",
      "verification_contract_identity", "witness_digest"] ++
    requireTexts ["target_kind", "runner_class", "handler_id", "credential_class",
      "conformance_authority_revision"] ++
    [.oneOf "precondition_enforcement_class" [readThenCompare, atomicProviderCondition]
      "precondition_enforcement_class is unsupported"]

def ofAttributes (self : Attributes) : ExecutionConformanceWitness where
  grantDigest := self.text "grant_digest"
  executionBindingDigest := self.text "execution_binding_digest"
  executionCapsuleDigest := self.text "execution_capsule_digest"
  capabilityDefinitionIdentity := self.text "capability_definition_identity"
  capabilityActivationDigest := self.text "capability_activation_digest"
  capsuleActivationDigest := self.text "capsule_activation_digest"
  handlerConformanceEvidenceDigest := self.text "handler_conformance_evidence_digest"
  targetKind := self.text "target_kind"
  runnerClass := self.text "runner_class"
  handlerId := self.text "handler_id"
  handlerDigest := self.text "handler_digest"
  credentialClass := self.text "credential_class"
  preconditionEnforcementClass := self.text "precondition_enforcement_class"
  verificationContractIdentity := self.text "verification_contract_identity"
  atomicProviderConditionContractIdentity :=
    (self "atomic_provider_condition_contract_identity").text?
  conformanceAuthorityRevision := self.text "conformance_authority_revision"
  witnessDigest := self.text "witness_digest"

/-- Only an atomic enforcement names a contract of the provider. -/
def checkCondition (enforcementClass : String) (identity : Json) : Except Raised Unit :=
  if enforcementClass = atomicProviderCondition then do
    let _ ← requireDigest identity "atomic_provider_condition_contract_identity"
  else
    raiseIf (identity ≠ .null)
      (valueError "read-then-compare witness cannot claim atomic provider condition")

def fromDict (sha256 : String → String) (value : Json) :
    Except Raised ExecutionConformanceWitness := do
  requireExactFields value
    ["schema_version", "witness_type", "grant_digest", "execution_binding_digest",
      "execution_capsule_digest", "capability_definition_identity", "capability_activation_digest",
      "capsule_activation_digest", "handler_conformance_evidence_digest", "target_kind",
      "runner_class", "handler_id", "handler_digest", "credential_class",
      "precondition_enforcement_class", "verification_contract_identity",
      "atomic_provider_condition_contract_identity", "conformance_authority_revision",
      "witness_digest"] "execution-conformance-witness/v1"
  raiseIf ((value.get "schema_version").equalsInt 1 = false ∨
      value.get "witness_type" ≠ .str "execution-conformance-witness/v1")
    (valueError "execution conformance witness schema or type is unsupported")
  AttributeCheck.performAll value.get checks
  let witness := ofAttributes value.get
  checkCondition witness.preconditionEnforcementClass
    (value.get "atomic_provider_condition_contract_identity")
  raiseIf (witness.witnessDigest ≠ digestOf sha256 (.object witness.claimFields))
    (valueError "witness_digest does not match execution conformance witness")
  return witness

def documentKind (sha256 : String → String) : DocumentKind ExecutionConformanceWitness where
  claimFields := claimFields
  digestField := "witness_digest"
  digest := witnessDigest
  fromDict := fromDict sha256

theorem lawful_documentKind (sha256 : String → String) : (documentKind sha256).Lawful sha256 where
  names _ _ := rfl
  distinct witness := by simp [documentKind, claimFields]
  delimited witness := by
    have identity : Delimited (render
        (witness.atomicProviderConditionContractIdentity.elim .null .str)) := by
      cases witness.atomicProviderConditionContractIdentity with
      | none => exact .inr (by rw [Option.elim_none, render]; exact plain_of_all (by decide))
      | some identity => exact delimited_str identity
    simp only [documentKind, claimFields, List.forall_mem_cons, delimited_str, delimited_int,
      identity, List.not_mem_nil, false_imp_iff, implies_true, and_self]
  digested document value read := by
    simp only [documentKind, fromDict, bind_eq_ok, raiseIf_eq_ok, not_not, pure_eq_ok] at read
    obtain ⟨_, _, _, _, _, _, _, _, _, digest, rfl⟩ := read
    exact digest
  raises document := by
    refine (raises_requireExactFields caught_value _ _ _).bind fun _ =>
      (raises_raiseIf (caught_value _)).bind fun _ => ?_
    refine (AttributeCheck.raises_performAll caught_value
    (fun _ _ _ _ => caught_type) fun field condition member => ?_).bind fun _ => ?_
    · simp [checks, requireDigests, requireTexts] at member
    · refine Raises.bind ?_ fun _ => (raises_raiseIf (caught_value _)).bind fun _ => raises_pure _
      unfold checkCondition
      split
      · exact (raises_requireDigest caught_value _ _).bind fun _ => raises_pure _
      · exact raises_raiseIf (caught_value _)

end ExecutionConformanceWitness

end VoodooOne
