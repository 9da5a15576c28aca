import VoodooOne.Authorization.Authorities
import VoodooOne.Precondition.Contracts

/-!
# The precondition guard

The guard asks a binder for the state that was expected and an observer for the state that there is.
It issues a witness only when the two states are equal.
-/

namespace VoodooOne

open Calendar

/-- The six objects of a witness. -/
structure PreconditionInputs where
  parent : AuthorityScope
  authority : AuthorityConstraint
  monotonicDecision : MonotonicAuthorityDecision
  requirement : PreconditionRequirement
  expectation : PreconditionExpectation
  observation : PreconditionObservation
deriving DecidableEq

/-- `PreconditionViolation`: its reason codes are sorted and distinct, and there is one. -/
structure PreconditionViolation where
  reasonCodes : List String
  sorted : reasonCodes.Pairwise (· ≤ ·)
  distinct : reasonCodes.Nodup
  nonempty : reasonCodes ≠ []

/-- The constructor, of a first and of further reason codes; it normalizes them as the constructor
of a monotonic violation does. -/
def PreconditionViolation.ofCodes (first : String) (rest : List String) : PreconditionViolation :=
  let normalized := MonotonicAuthorityViolation.ofCodes first rest
  ⟨normalized.reasonCodes, normalized.sorted, normalized.distinct, normalized.nonempty⟩

@[simp] theorem PreconditionViolation.mem_ofCodes {first code : String} {rest : List String} :
    code ∈ (PreconditionViolation.ofCodes first rest).reasonCodes ↔ code ∈ first :: rest :=
  MonotonicAuthorityViolation.mem_ofCodes

/-- What a witness may fail with. -/
inductive PreconditionFailure where
  | denied (violation : PreconditionViolation)
  | invalid (error : Raised)

/-- Raise a violation when there are reason codes. -/
def denyIfAny : List String → Except PreconditionFailure Unit
  | [] => .ok ()
  | first :: rest => .error (.denied (.ofCodes first rest))

theorem denyIfAny_eq_ok {codes : List String} {result : Unit} :
    denyIfAny codes = .ok result ↔ codes = [] := by
  cases codes <;> simp [denyIfAny]

theorem exists_of_denyIfAny {codes : List String} {failure : PreconditionFailure}
    (denied : denyIfAny codes = .error failure) :
    ∃ violation, failure = .denied violation ∧ ∀ code, code ∈ violation.reasonCodes ↔
      code ∈ codes := by
  cases codes with
  | nil => cases denied
  | cons first rest =>
      exact ⟨_, (Except.error.inj denied).symm, fun code => PreconditionViolation.mem_ofCodes⟩

namespace PreconditionInputs

/-- The start of `_binding_violations`: the monotonic decision is checked again. -/
def monotonicViolations (sha256 : Sha256) (inputs : PreconditionInputs) :
    Except Raised (List String) :=
  match MonotonicAuthorityChecker.check sha256.hexdigest inputs.parent inputs.authority with
  | .ok computed => .ok (codeIf
      (computed.decisionDigest ≠ inputs.monotonicDecision.decisionDigest)
      "MONOTONIC_AUTHORITY_DECISION_MISMATCH")
  | .error (.denied _) => .ok ["MONOTONIC_AUTHORITY_INVALID"]
  | .error (.invalid error) => .error error

def bindingViolations (sha256 : Sha256) (inputs : PreconditionInputs) :
    Except Raised (List String) := do
  let parent := inputs.parent
  let authority := inputs.authority
  let monotonicDecision := inputs.monotonicDecision
  let requirement := inputs.requirement
  let expectation := inputs.expectation
  let observation := inputs.observation
  let monotonic ← inputs.monotonicViolations sha256
  return monotonic ++
    codeIf (monotonicDecision.parentScopeDigest ≠ parent.scopeDigest)
      "MONOTONIC_PARENT_SCOPE_MISMATCH" ++
    codeIf (monotonicDecision.childConstraintDigest ≠ authority.constraintDigest)
      "MONOTONIC_CHILD_CONSTRAINT_MISMATCH" ++
    codeIf (requirement.capabilityDefinitionIdentity ≠ authority.capabilityDefinitionIdentity)
      "CAPABILITY_DEFINITION_BINDING_MISMATCH" ++
    codeIf (requirement.targetKind ≠ authority.targetKind) "REQUIREMENT_TARGET_KIND_MISMATCH" ++
    codeIf (expectation.parentScopeDigest ≠ parent.scopeDigest)
      "EXPECTATION_PARENT_SCOPE_MISMATCH" ++
    codeIf (expectation.authorityConstraintDigest ≠ authority.constraintDigest)
      "EXPECTATION_AUTHORITY_CONSTRAINT_MISMATCH" ++
    codeIf (expectation.requirementDigest ≠ requirement.requirementDigest)
      "EXPECTATION_REQUIREMENT_MISMATCH" ++
    codeIf (observation.requirementDigest ≠ requirement.requirementDigest)
      "OBSERVATION_REQUIREMENT_MISMATCH" ++
    codeIf (expectation.targetKind ≠ authority.targetKind) "EXPECTATION_TARGET_KIND_MISMATCH" ++
    codeIf (observation.targetKind ≠ authority.targetKind) "OBSERVATION_TARGET_KIND_MISMATCH" ++
    codeIf (expectation.targetDigest ≠ authority.targetDigest)
      "EXPECTATION_TARGET_DIGEST_MISMATCH" ++
    codeIf (observation.targetDigest ≠ authority.targetDigest)
      "OBSERVATION_TARGET_DIGEST_MISMATCH" ++
    codeIf (expectation.stateSchema ≠ requirement.stateSchema) "EXPECTATION_STATE_SCHEMA_MISMATCH"
      ++
    codeIf (observation.stateSchema ≠ requirement.stateSchema) "OBSERVATION_STATE_SCHEMA_MISMATCH"
      ++
    codeIf (observation.observerId ≠ requirement.observerId) "OBSERVER_BINDING_MISMATCH"

/-- The last conditions of both `create` and `validate_bindings`: the state is the expected one, and
it was observed while the authority was valid. -/
def stateViolations (inputs : PreconditionInputs) : Except Raised (List String) := do
  let changed := codeIf
    (inputs.expectation.expectedStateDigest ≠ inputs.observation.observedStateDigest)
    "PRECONDITION_CHANGED"
  let scopeStart ← requireTimestamp (.str inputs.authority.validFrom) "authority.valid_from"
  let scopeEnd ← requireTimestamp (.str inputs.authority.validUntil) "authority.valid_until"
  let checkedAt ← requireTimestamp (.str inputs.observation.observedAt) "observed_at"
  return changed ++ codeIf (checkedAt < scopeStart) "PRECONDITION_CHECK_BEFORE_AUTHORITY" ++
    codeIf (scopeEnd ≤ checkedAt) "PRECONDITION_CHECK_AFTER_AUTHORITY_EXPIRY"

end PreconditionInputs

structure PreconditionWitness where
  (parentScopeDigest authorityConstraintDigest monotonicAuthorityDecisionDigest : String)
  (requirementDigest expectationDigest observationDigest targetDigest : String)
  (expectedStateDigest observedStateDigest observerId sourceIdentity : String)
  (clockSourceIdentity clockWitnessDigest checkedAt relation enforcementClass : String)
  witnessDigest : String
deriving DecidableEq, Repr

/-- `MATCH`. -/
def matchRelation : String := "MATCH"

/-- A field of a witness that repeats a part of its objects. -/
inductive WitnessField where
  | parentScopeDigest
  | authorityConstraintDigest
  | monotonicAuthorityDecisionDigest
  | requirementDigest
  | expectationDigest
  | observationDigest
  | targetDigest
  | expectedStateDigest
  | observedStateDigest
  | observerId
  | sourceIdentity
  | clockSourceIdentity
  | clockWitnessDigest
  | checkedAt
  | enforcementClass
deriving DecidableEq, Repr

namespace WitnessField

/-- The fields, in the order in which they are compared. -/
def fields : List WitnessField :=
  [parentScopeDigest, authorityConstraintDigest, monotonicAuthorityDecisionDigest,
    requirementDigest, expectationDigest, observationDigest, targetDigest, expectedStateDigest,
    observedStateDigest, observerId, sourceIdentity, clockSourceIdentity, clockWitnessDigest,
    checkedAt, enforcementClass]

theorem mem_fields (field : WitnessField) : field ∈ fields := by
  cases field <;> decide

def name : WitnessField → String
  | parentScopeDigest => "parent_scope_digest"
  | authorityConstraintDigest => "authority_constraint_digest"
  | monotonicAuthorityDecisionDigest => "monotonic_authority_decision_digest"
  | requirementDigest => "requirement_digest"
  | expectationDigest => "expectation_digest"
  | observationDigest => "observation_digest"
  | targetDigest => "target_digest"
  | expectedStateDigest => "expected_state_digest"
  | observedStateDigest => "observed_state_digest"
  | observerId => "observer_id"
  | sourceIdentity => "source_identity"
  | clockSourceIdentity => "clock_source_identity"
  | clockWitnessDigest => "clock_witness_digest"
  | checkedAt => "checked_at"
  | enforcementClass => "enforcement_class"

def held (witness : PreconditionWitness) : WitnessField → String
  | parentScopeDigest => witness.parentScopeDigest
  | authorityConstraintDigest => witness.authorityConstraintDigest
  | monotonicAuthorityDecisionDigest => witness.monotonicAuthorityDecisionDigest
  | requirementDigest => witness.requirementDigest
  | expectationDigest => witness.expectationDigest
  | observationDigest => witness.observationDigest
  | targetDigest => witness.targetDigest
  | expectedStateDigest => witness.expectedStateDigest
  | observedStateDigest => witness.observedStateDigest
  | observerId => witness.observerId
  | sourceIdentity => witness.sourceIdentity
  | clockSourceIdentity => witness.clockSourceIdentity
  | clockWitnessDigest => witness.clockWitnessDigest
  | checkedAt => witness.checkedAt
  | enforcementClass => witness.enforcementClass

def expected (inputs : PreconditionInputs) : WitnessField → String
  | parentScopeDigest => inputs.parent.scopeDigest
  | authorityConstraintDigest => inputs.authority.constraintDigest
  | monotonicAuthorityDecisionDigest => inputs.monotonicDecision.decisionDigest
  | requirementDigest => inputs.requirement.requirementDigest
  | expectationDigest => inputs.expectation.expectationDigest
  | observationDigest => inputs.observation.observationDigest
  | targetDigest => inputs.authority.targetDigest
  | expectedStateDigest => inputs.expectation.expectedStateDigest
  | observedStateDigest => inputs.observation.observedStateDigest
  | observerId => inputs.observation.observerId
  | sourceIdentity => inputs.observation.sourceIdentity
  | clockSourceIdentity => inputs.observation.clockSourceIdentity
  | clockWitnessDigest => inputs.observation.clockWitnessDigest
  | checkedAt => inputs.observation.observedAt
  | enforcementClass => inputs.requirement.enforcementClass

end WitnessField

namespace PreconditionWitness

def claimsWithoutDigest (witness : PreconditionWitness) : Json :=
  .object [("schema_version", .int 1), ("witness_type", .str "precondition-witness/v1"),
    ("parent_scope_digest", .str witness.parentScopeDigest),
    ("authority_constraint_digest", .str witness.authorityConstraintDigest),
    ("monotonic_authority_decision_digest", .str witness.monotonicAuthorityDecisionDigest),
    ("requirement_digest", .str witness.requirementDigest),
    ("expectation_digest", .str witness.expectationDigest),
    ("observation_digest", .str witness.observationDigest),
    ("target_digest", .str witness.targetDigest),
    ("expected_state_digest", .str witness.expectedStateDigest),
    ("observed_state_digest", .str witness.observedStateDigest),
    ("observer_id", .str witness.observerId),
    ("source_identity", .str witness.sourceIdentity),
    ("clock_source_identity", .str witness.clockSourceIdentity),
    ("clock_witness_digest", .str witness.clockWitnessDigest),
    ("checked_at", .str witness.checkedAt),
    ("relation", .str witness.relation),
    ("enforcement_class", .str witness.enforcementClass)]

def postInit (sha256 : Sha256) (witness : PreconditionWitness) : Except Raised Unit := do
  requireDigestFields [("parent_scope_digest", witness.parentScopeDigest),
    ("authority_constraint_digest", witness.authorityConstraintDigest),
    ("monotonic_authority_decision_digest", witness.monotonicAuthorityDecisionDigest),
    ("requirement_digest", witness.requirementDigest),
    ("expectation_digest", witness.expectationDigest),
    ("observation_digest", witness.observationDigest),
    ("target_digest", witness.targetDigest),
    ("expected_state_digest", witness.expectedStateDigest),
    ("observed_state_digest", witness.observedStateDigest),
    ("clock_witness_digest", witness.clockWitnessDigest),
    ("witness_digest", witness.witnessDigest)]
  requireTextFields [("observer_id", witness.observerId),
    ("source_identity", witness.sourceIdentity),
    ("clock_source_identity", witness.clockSourceIdentity)]
  let _ ← requireTimestamp (.str witness.checkedAt) "checked_at"
  raiseIf (witness.relation ≠ matchRelation) (valueError "relation must be MATCH")
  raiseIf (witness.expectedStateDigest ≠ witness.observedStateDigest)
    (valueError "MATCH witness requires equal state digests")
  raiseIf (witness.enforcementClass ∉ enforcementClasses)
    (valueError "enforcement_class is unsupported")
  raiseIf (witness.witnessDigest ≠ digestOf sha256.hexdigest witness.claimsWithoutDigest)
    (valueError "witness_digest does not match precondition witness")

/-- The witness of six objects, before its digest is set. -/
def draft (inputs : PreconditionInputs) : PreconditionWitness where
  parentScopeDigest := inputs.parent.scopeDigest
  authorityConstraintDigest := inputs.authority.constraintDigest
  monotonicAuthorityDecisionDigest := inputs.monotonicDecision.decisionDigest
  requirementDigest := inputs.requirement.requirementDigest
  expectationDigest := inputs.expectation.expectationDigest
  observationDigest := inputs.observation.observationDigest
  targetDigest := inputs.authority.targetDigest
  expectedStateDigest := inputs.expectation.expectedStateDigest
  observedStateDigest := inputs.observation.observedStateDigest
  observerId := inputs.observation.observerId
  sourceIdentity := inputs.observation.sourceIdentity
  clockSourceIdentity := inputs.observation.clockSourceIdentity
  clockWitnessDigest := inputs.observation.clockWitnessDigest
  checkedAt := inputs.observation.observedAt
  relation := matchRelation
  enforcementClass := inputs.requirement.enforcementClass
  witnessDigest := ""

/-- `cls(**values, witness_digest=_digest(claims))`. -/
def issue (sha256 : Sha256) (inputs : PreconditionInputs) : Except Raised PreconditionWitness := do
  let witness := { draft inputs with
    witnessDigest := digestOf sha256.hexdigest (draft inputs).claimsWithoutDigest }
  witness.postInit sha256
  return witness

def create (sha256 : Sha256) (inputs : PreconditionInputs) :
    Except PreconditionFailure PreconditionWitness := do
  let bindings ← (inputs.bindingViolations sha256).mapError .invalid
  let state ← inputs.stateViolations.mapError .invalid
  denyIfAny (bindings ++ state)
  (issue sha256 inputs).mapError .invalid

def validateBindings (sha256 : Sha256) (witness : PreconditionWitness)
    (inputs : PreconditionInputs) : Except PreconditionFailure Unit := do
  let bindings ← (inputs.bindingViolations sha256).mapError .invalid
  let fields := WitnessField.fields.flatMap fun field =>
    codeIf (field.held witness ≠ field.expected inputs) ("WITNESS_" ++ upper field.name ++
      "_MISMATCH")
  let state ← inputs.stateViolations.mapError .invalid
  denyIfAny (bindings ++ fields ++ state)

end PreconditionWitness

structure PreconditionExpectationBinder where
  (binderId targetKind stateSchema : String)
  bindExpected : ExecutionTarget → Except Raised Json

structure PreconditionObserver where
  (observerId targetKind stateSchema sourceIdentity : String)
  observe : ExecutionTarget → Except Raised Json

/-- `PreconditionGuard`, over the entries of its registries. -/
structure PreconditionGuard where
  requirements : List PreconditionRequirement
  expectationBinders : List PreconditionExpectationBinder
  observers : List PreconditionObserver
  trustedClock : TrustedClockAuthority

/-- A body under an `except` clause whose handler denies with a reason code. -/
def denying {α : Type} (classes : List ExceptionClass) (code : String) :
    Except Raised α → Except PreconditionFailure α
  | .ok value => .ok value
  | .error error => .error
      (if classes.any error.cls.isA then .denied (.ofCodes code []) else .invalid error)

@[simp] theorem denying_eq_ok {α : Type} {classes : List ExceptionClass} {code : String}
    {body : Except Raised α} {value : α} :
    denying classes code body = .ok value ↔ body = .ok value := by
  cases body <;> simp [denying]

namespace PreconditionGuard

/-- `ImmutablePreconditionRequirementRegistry.resolve`. -/
def resolveRequirement (guard : PreconditionGuard) (capabilityDefinitionIdentity : String) :
    Except Raised PreconditionRequirement := do
  let identity ← requireDigest (.str capabilityDefinitionIdentity) "capability_definition_identity"
  orRaise ⟨.lookupError, "precondition requirement not found"⟩
    (Table.lookup (·.capabilityDefinitionIdentity) guard.requirements identity)

/-- `PreconditionExpectationBinderRegistry.resolve`. -/
def resolveBinder (guard : PreconditionGuard) (binderId : String) :
    Except Raised PreconditionExpectationBinder := do
  let binderId ← requireText (.str binderId) "binder_id"
  orRaise ⟨.lookupError, "precondition expectation binder not found"⟩
    (Table.lookup (·.binderId) guard.expectationBinders binderId)

/-- `PreconditionObserverRegistry.resolve`. -/
def resolveObserver (guard : PreconditionGuard) (observerId : String) :
    Except Raised PreconditionObserver := do
  let observerId ← requireText (.str observerId) "observer_id"
  orRaise ⟨.lookupError, "precondition observer not found"⟩
    (Table.lookup (·.observerId) guard.observers observerId)

/-- What the binder, the observer and the clock may raise for their failure to deny. -/
def sourceErrors : List ExceptionClass :=
  [.lookupError, .permissionError, .runtimeError, .typeError, .valueError]

def sourceViolations (requirement : PreconditionRequirement)
    (binder : PreconditionExpectationBinder) (observer : PreconditionObserver) : List String :=
  codeIf (binder.targetKind ≠ requirement.targetKind) "EXPECTATION_BINDER_TARGET_KIND_MISMATCH" ++
  codeIf (binder.stateSchema ≠ requirement.stateSchema)
    "EXPECTATION_BINDER_STATE_SCHEMA_MISMATCH" ++
  codeIf (observer.targetKind ≠ requirement.targetKind) "OBSERVER_TARGET_KIND_MISMATCH" ++
  codeIf (observer.stateSchema ≠ requirement.stateSchema) "OBSERVER_STATE_SCHEMA_MISMATCH"

/-- The monotonic check, whose violation denies the witness. -/
def computedDecision (sha256 : Sha256) (parent : AuthorityScope) (authority : AuthorityConstraint) :
    Except PreconditionFailure MonotonicAuthorityDecision :=
  match MonotonicAuthorityChecker.check sha256.hexdigest parent authority with
  | .ok computed => .ok computed
  | .error (.denied _) => .error (.denied (.ofCodes "MONOTONIC_AUTHORITY_INVALID" []))
  | .error (.invalid error) => .error (.invalid error)

/-- `witness`, on what the clock source returned. -/
def witness (floats : FloatRepr) (sha256 : Sha256) (guard : PreconditionGuard)
    (parent : AuthorityScope) (authority : AuthorityConstraint)
    (monotonicDecision : MonotonicAuthorityDecision) (target : ExecutionTarget)
    (reading : ClockReading) : Except PreconditionFailure PreconditionWitness := do
  let computed ← computedDecision sha256 parent authority
  denyIfAny (codeIf (computed.decisionDigest ≠ monotonicDecision.decisionDigest)
      "MONOTONIC_AUTHORITY_DECISION_MISMATCH" ++
    codeIf (target.targetKind ≠ authority.targetKind) "TARGET_KIND_SCOPE_MISMATCH" ++
    codeIf (target.targetDigest ≠ authority.targetDigest) "TARGET_DIGEST_SCOPE_MISMATCH")
  let requirement ← denying [.lookupError, .valueError] "PRECONDITION_REQUIREMENT_NOT_FOUND"
    (guard.resolveRequirement authority.capabilityDefinitionIdentity)
  denyIfAny (codeIf (requirement.targetKind ≠ authority.targetKind)
      "REQUIREMENT_TARGET_KIND_MISMATCH" ++
    codeIf (requirement.capabilityDefinitionIdentity ≠ authority.capabilityDefinitionIdentity)
      "CAPABILITY_DEFINITION_BINDING_MISMATCH")
  let binder ← denying [.lookupError, .valueError] "EXPECTATION_BINDER_NOT_FOUND"
    (guard.resolveBinder requirement.expectationBinderId)
  let observer ← denying [.lookupError, .valueError] "PRECONDITION_OBSERVER_NOT_FOUND"
    (guard.resolveObserver requirement.observerId)
  denyIfAny (sourceViolations requirement binder observer)
  let expectation ← denying sourceErrors "EXPECTATION_BINDER_DENIED" do
    let expectedState ← binder.bindExpected target
    PreconditionExpectation.create floats sha256 parent.scopeDigest authority.constraintDigest
      requirement.requirementDigest target.targetKind target.targetDigest requirement.stateSchema
      expectedState
  let observedState ← denying sourceErrors "PRECONDITION_OBSERVER_DENIED" (observer.observe target)
  let clockWitness ← denying sourceErrors "TRUSTED_CLOCK_DENIED"
    (guard.trustedClock.witness sha256.hexdigest authority.environment reading)
  denyIfAny (codeIf (clockWitness.sourceIdentity ≠ guard.trustedClock.sourceIdentity)
    "TRUSTED_CLOCK_BINDING_MISMATCH")
  let observation ← denying [.typeError, .valueError] "PRECONDITION_OBSERVATION_INVALID"
    (PreconditionObservation.create floats sha256 requirement.requirementDigest target.targetKind
      target.targetDigest requirement.stateSchema observer.observerId observer.sourceIdentity
      clockWitness observedState)
  PreconditionWitness.create sha256
    ⟨parent, authority, monotonicDecision, requirement, expectation, observation⟩

end PreconditionGuard

theorem PreconditionWitness.unchanged_of_create {sha256 : Sha256} {inputs : PreconditionInputs}
    {witness : PreconditionWitness} (created : create sha256 inputs = .ok witness) :
    inputs.expectation.expectedStateDigest = inputs.observation.observedStateDigest := by
  simp only [create, bind_eq_ok] at created
  obtain ⟨_, -, _, -, _, -, issued⟩ := created
  cases found : issue sha256 inputs with
  | error error =>
      rw [found] at issued
      cases issued
  | ok issued =>
      simp only [issue, postInit, bind_eq_ok, raiseIf_eq_ok, not_not] at found
      obtain ⟨_, ⟨_, -, _, -, _, -, _, -, _, unchanged, -⟩, -⟩ := found
      exact unchanged

/-- The guard issues a witness only when the state that the binder expects and the state that the
observer reports have one canonical text, or two texts with one digest. -/
theorem PreconditionGuard.states_of_witness {floats : FloatRepr} {sha256 : Sha256}
    {guard : PreconditionGuard} {parent : AuthorityScope} {authority : AuthorityConstraint}
    {monotonicDecision : MonotonicAuthorityDecision} {target : ExecutionTarget}
    {reading : ClockReading} {issued : PreconditionWitness}
    (witnessed : guard.witness floats sha256 parent authority monotonicDecision target reading =
      .ok issued) :
    ∃ requirement binder observer expectedState observedState,
      guard.resolveRequirement authority.capabilityDefinitionIdentity = .ok requirement ∧
      guard.resolveBinder requirement.expectationBinderId = .ok binder ∧
      guard.resolveObserver requirement.observerId = .ok observer ∧
      binder.bindExpected target = .ok expectedState ∧
      observer.observe target = .ok observedState ∧
      (canonicalJson expectedState = canonicalJson observedState ∨
        Collision sha256.hexdigest (canonicalJson expectedState)
          (canonicalJson observedState)) := by
  simp only [witness, bind_eq_ok, denying_eq_ok] at witnessed
  obtain ⟨_, -, _, -, requirement, required, _, -, binder, bound, observer, observing, _, -,
    expectation, ⟨expectedState, expected, expecting⟩, observedState, observed, clockWitness, -, _,
    -, observation, recorded, created⟩ := witnessed
  refine ⟨requirement, binder, observer, expectedState, observedState, required, bound, observing,
    expected, observed, ?_⟩
  have digests : sha256.hexdigest (canonicalJson expectedState) =
      sha256.hexdigest (canonicalJson observedState) := by
    rw [← PreconditionExpectation.expectedStateDigest_of_create expecting,
      ← PreconditionObservation.observedStateDigest_of_create recorded]
    exact PreconditionWitness.unchanged_of_create created
  by_cases same : canonicalJson expectedState = canonicalJson observedState
  · exact .inl same
  · exact .inr ⟨same, digests⟩

end VoodooOne
