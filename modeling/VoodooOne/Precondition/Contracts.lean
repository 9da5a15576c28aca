import VoodooOne.Authorization.AuthorityChains
import VoodooOne.Evidence.Chain

/-!
# Requirements, expectations and observations

What a capability requires of the state of its target, the state that was expected when the effect
was authorized, and the state that was observed before it is dispatched.  A state is kept as its
canonical text.
-/

namespace VoodooOne

open Calendar

def exactStateDigest : String := "EXACT_STATE_DIGEST"

/-- `READ_THEN_COMPARE` and `ATOMIC_PROVIDER_CONDITION`. -/
def enforcementClasses : List String := ["READ_THEN_COMPARE", "ATOMIC_PROVIDER_CONDITION"]

/-- `_canonical_state`: the canonical text of a state, and its digest. -/
def canonicalState (sha256 : Sha256) (value : Json) (field : String) :
    Except Raised (String × String) := do
  let _ ← orRaise (valueError (field ++ " must be an object")) value.keys
  requireJsonValue field jsonLevels value
  return (canonicalJson value, sha256.hexdigest (canonicalJson value))

/-- A state that is kept as text: the canonical text of an object without floats. -/
def requireStateText (floats : FloatRepr) (text field : String) : Except Raised Unit := do
  let state ← orRaise (valueError (field ++ " is invalid")) (loads floats text)
  let _ ← orRaise (valueError (field ++ " must be an object")) state.keys
  requireJsonValue field jsonLevels state
  raiseIf (text ≠ canonicalJson state) (valueError (field ++ " is not canonical"))

def decodedState (floats : FloatRepr) (text : String) : Json := (loads floats text).getD .null

theorem canonicalState_eq_ok {sha256 : Sha256} {value : Json} {field text digest : String}
    (stated : canonicalState sha256 value field = .ok (text, digest)) :
    text = canonicalJson value ∧ digest = sha256.hexdigest (canonicalJson value) := by
  simp only [canonicalState, bind_eq_ok, pure_eq_ok, Prod.mk.injEq] at stated
  obtain ⟨_, -, _, -, rfl, rfl⟩ := stated
  exact ⟨rfl, rfl⟩

theorem requireStateText_eq_ok {floats : FloatRepr} {text field : String} {result : Unit}
    (passed : requireStateText floats text field = .ok result) :
    (decodedState floats text).WellFormed floats ∧
      text = canonicalJson (decodedState floats text) := by
  simp only [requireStateText, bind_eq_ok, orRaise_eq_ok, raiseIf_eq_ok, not_not] at passed
  obtain ⟨state, read, _, -, _, -, canonical⟩ := passed
  rw [decodedState, read]
  exact ⟨wellFormed_of_loads read, canonical⟩

structure PreconditionRequirement where
  (capabilityDefinitionIdentity targetKind expectationBinderId observerId : String)
  (stateSchema comparisonMode enforcementClass requirementRevision requirementDigest : String)
deriving DecidableEq, Repr

namespace PreconditionRequirement

def claimFields (requirement : PreconditionRequirement) : List (String × Json) :=
  [("schema_version", .int 1), ("requirement_type", .str "precondition-requirement/v1"),
    ("capability_definition_identity", .str requirement.capabilityDefinitionIdentity),
    ("target_kind", .str requirement.targetKind),
    ("expectation_binder_id", .str requirement.expectationBinderId),
    ("observer_id", .str requirement.observerId),
    ("state_schema", .str requirement.stateSchema),
    ("comparison_mode", .str requirement.comparisonMode),
    ("enforcement_class", .str requirement.enforcementClass),
    ("requirement_revision", .str requirement.requirementRevision)]

def postInit (sha256 : Sha256) (requirement : PreconditionRequirement) : Except Raised Unit := do
  requireDigestFields
    [("capability_definition_identity", requirement.capabilityDefinitionIdentity)]
  requireTextFields [("target_kind", requirement.targetKind),
    ("expectation_binder_id", requirement.expectationBinderId),
    ("observer_id", requirement.observerId), ("state_schema", requirement.stateSchema),
    ("requirement_revision", requirement.requirementRevision)]
  raiseIf (requirement.comparisonMode ≠ exactStateDigest)
    (valueError "comparison_mode must be EXACT_STATE_DIGEST")
  raiseIf (requirement.enforcementClass ∉ enforcementClasses)
    (valueError "enforcement_class is unsupported")
  requireDigestFields [("requirement_digest", requirement.requirementDigest)]
  raiseIf (requirement.requirementDigest ≠
      digestOf sha256.hexdigest (.object requirement.claimFields))
    (valueError "requirement_digest does not match precondition requirement")

/-- What the constructor establishes for those who use a requirement. -/
theorem postInit_eq_ok {sha256 : Sha256} {requirement : PreconditionRequirement} {result : Unit}
    (passed : requirement.postInit sha256 = .ok result) :
    requirement.enforcementClass ∈ enforcementClasses ∧
      requirement.requirementDigest = digestOf sha256.hexdigest
        (.object requirement.claimFields) := by
  simp only [postInit, bind_eq_ok, raiseIf_eq_ok, not_not] at passed
  obtain ⟨_, -, _, -, _, -, _, enforced, _, -, digest⟩ := passed
  exact ⟨enforced, digest⟩

end PreconditionRequirement

structure PreconditionExpectation where
  (parentScopeDigest authorityConstraintDigest requirementDigest targetKind : String)
  (targetDigest stateSchema expectedStateJson expectedStateDigest expectationDigest : String)
deriving DecidableEq, Repr

namespace PreconditionExpectation

def claimFields (floats : FloatRepr) (expectation : PreconditionExpectation) :
    List (String × Json) :=
  [("schema_version", .int 1), ("expectation_type", .str "precondition-expectation/v1"),
    ("parent_scope_digest", .str expectation.parentScopeDigest),
    ("authority_constraint_digest", .str expectation.authorityConstraintDigest),
    ("requirement_digest", .str expectation.requirementDigest),
    ("target_kind", .str expectation.targetKind),
    ("target_digest", .str expectation.targetDigest),
    ("state_schema", .str expectation.stateSchema),
    ("expected_state", decodedState floats expectation.expectedStateJson),
    ("expected_state_digest", .str expectation.expectedStateDigest)]

def postInit (floats : FloatRepr) (sha256 : Sha256) (expectation : PreconditionExpectation) :
    Except Raised Unit := do
  requireDigestFields [("parent_scope_digest", expectation.parentScopeDigest),
    ("authority_constraint_digest", expectation.authorityConstraintDigest),
    ("requirement_digest", expectation.requirementDigest),
    ("target_digest", expectation.targetDigest),
    ("expected_state_digest", expectation.expectedStateDigest),
    ("expectation_digest", expectation.expectationDigest)]
  requireTextFields [("target_kind", expectation.targetKind),
    ("state_schema", expectation.stateSchema)]
  requireStateText floats expectation.expectedStateJson "expected_state"
  raiseIf (expectation.expectedStateDigest ≠ sha256.hexdigest expectation.expectedStateJson)
    (valueError "expected_state_digest does not match expected_state")
  raiseIf (expectation.expectationDigest ≠
      digestOf sha256.hexdigest (.object (expectation.claimFields floats)))
    (valueError "expectation_digest does not match precondition expectation")

def create (floats : FloatRepr) (sha256 : Sha256) (parentScopeDigest authorityConstraintDigest
    requirementDigest targetKind targetDigest stateSchema : String) (expectedState : Json) :
    Except Raised PreconditionExpectation := do
  let (stateJson, stateDigest) ← canonicalState sha256 expectedState "expected_state"
  let draft : PreconditionExpectation := ⟨parentScopeDigest, authorityConstraintDigest,
    requirementDigest, targetKind, targetDigest, stateSchema, stateJson, stateDigest, ""⟩
  let expectation := { draft with
    expectationDigest := digestOf sha256.hexdigest (.object (draft.claimFields floats)) }
  expectation.postInit floats sha256
  return expectation

theorem postInit_eq_ok {floats : FloatRepr} {sha256 : Sha256}
    {expectation : PreconditionExpectation} {result : Unit}
    (passed : expectation.postInit floats sha256 = .ok result) :
    ((decodedState floats expectation.expectedStateJson).WellFormed floats ∧
      expectation.expectedStateJson = canonicalJson
        (decodedState floats expectation.expectedStateJson)) ∧
    expectation.expectedStateDigest = sha256.hexdigest expectation.expectedStateJson ∧
    expectation.expectationDigest =
      digestOf sha256.hexdigest (.object (expectation.claimFields floats)) := by
  simp only [postInit, bind_eq_ok, raiseIf_eq_ok, not_not] at passed
  obtain ⟨_, -, _, -, _, stated, _, state, digest⟩ := passed
  exact ⟨requireStateText_eq_ok stated, state, digest⟩

theorem expectedStateDigest_of_create {floats : FloatRepr} {sha256 : Sha256}
    {parentScopeDigest authorityConstraintDigest requirementDigest targetKind targetDigest
      stateSchema : String} {expectedState : Json} {expectation : PreconditionExpectation}
    (created : create floats sha256 parentScopeDigest authorityConstraintDigest requirementDigest
      targetKind targetDigest stateSchema expectedState = .ok expectation) :
    expectation.expectedStateDigest = sha256.hexdigest (canonicalJson expectedState) := by
  simp only [create, bind_eq_ok, pure_eq_ok, Prod.exists] at created
  obtain ⟨_, _, stated, _, -, rfl⟩ := created
  exact (canonicalState_eq_ok stated).2

end PreconditionExpectation

structure PreconditionObservation where
  (requirementDigest targetKind targetDigest stateSchema observerId sourceIdentity : String)
  (clockSourceIdentity clockWitnessDigest observedAt observedStateJson : String)
  (observedStateDigest observationDigest : String)
deriving DecidableEq, Repr

namespace PreconditionObservation

def claimFields (floats : FloatRepr) (observation : PreconditionObservation) :
    List (String × Json) :=
  [("schema_version", .int 1), ("observation_type", .str "precondition-observation/v1"),
    ("requirement_digest", .str observation.requirementDigest),
    ("target_kind", .str observation.targetKind),
    ("target_digest", .str observation.targetDigest),
    ("state_schema", .str observation.stateSchema),
    ("observer_id", .str observation.observerId),
    ("source_identity", .str observation.sourceIdentity),
    ("clock_source_identity", .str observation.clockSourceIdentity),
    ("clock_witness_digest", .str observation.clockWitnessDigest),
    ("observed_at", .str observation.observedAt),
    ("observed_state", decodedState floats observation.observedStateJson),
    ("observed_state_digest", .str observation.observedStateDigest)]

def postInit (floats : FloatRepr) (sha256 : Sha256) (observation : PreconditionObservation) :
    Except Raised Unit := do
  requireDigestFields [("requirement_digest", observation.requirementDigest),
    ("target_digest", observation.targetDigest),
    ("clock_witness_digest", observation.clockWitnessDigest),
    ("observed_state_digest", observation.observedStateDigest),
    ("observation_digest", observation.observationDigest)]
  requireTextFields [("target_kind", observation.targetKind),
    ("state_schema", observation.stateSchema), ("observer_id", observation.observerId),
    ("source_identity", observation.sourceIdentity),
    ("clock_source_identity", observation.clockSourceIdentity)]
  let _ ← requireTimestamp (.str observation.observedAt) "observed_at"
  requireStateText floats observation.observedStateJson "observed_state"
  raiseIf (observation.observedStateDigest ≠ sha256.hexdigest observation.observedStateJson)
    (valueError "observed_state_digest does not match observed_state")
  raiseIf (observation.observationDigest ≠
      digestOf sha256.hexdigest (.object (observation.claimFields floats)))
    (valueError "observation_digest does not match precondition observation")

def create (floats : FloatRepr) (sha256 : Sha256) (requirementDigest targetKind targetDigest
    stateSchema observerId sourceIdentity : String) (clockWitness : ClockWitness)
    (observedState : Json) : Except Raised PreconditionObservation := do
  let (stateJson, stateDigest) ← canonicalState sha256 observedState "observed_state"
  let draft : PreconditionObservation := ⟨requirementDigest, targetKind, targetDigest, stateSchema,
    observerId, sourceIdentity, clockWitness.sourceIdentity, clockWitness.witnessDigest,
    clockWitness.observedAt, stateJson, stateDigest, ""⟩
  let observation := { draft with
    observationDigest := digestOf sha256.hexdigest (.object (draft.claimFields floats)) }
  observation.postInit floats sha256
  return observation

structure Checked (floats : FloatRepr) (sha256 : Sha256) (observation : PreconditionObservation)
    (observedAt : Instant) : Prop where
  clockWitnessDigest : IsDigest observation.clockWitnessDigest
  texts : ValidText observation.observerId ∧ ValidText observation.sourceIdentity ∧
    ValidText observation.clockSourceIdentity
  observedAt : observation.observedAt = observedAt.isoformat ∧ ValidText observedAt.isoformat
  state : (decodedState floats observation.observedStateJson).WellFormed floats ∧
    observation.observedStateJson = canonicalJson
      (decodedState floats observation.observedStateJson)
  stateDigest : observation.observedStateDigest = sha256.hexdigest observation.observedStateJson
  digest : observation.observationDigest =
    digestOf sha256.hexdigest (.object (observation.claimFields floats))

theorem checked_of_postInit {floats : FloatRepr} {sha256 : Sha256}
    {observation : PreconditionObservation} {result : Unit}
    (passed : observation.postInit floats sha256 = .ok result) :
    ∃ observedAt, observation.Checked floats sha256 observedAt := by
  simp only [postInit, bind_eq_ok, raiseIf_eq_ok, not_not, requireDigestFields_eq_ok,
    requireTextFields_eq_ok, requireTimestamp_eq_ok, Json.str.injEq, List.forall_mem_cons] at passed
  obtain ⟨_, digests, _, texts, observedAt, time, _, stated, _, state, digest⟩ := passed
  exact ⟨observedAt, digests.2.2.1, ⟨texts.2.2.1, texts.2.2.2.1, texts.2.2.2.2.1⟩, time,
    requireStateText_eq_ok stated, state, digest⟩

theorem observedStateDigest_of_create {floats : FloatRepr} {sha256 : Sha256}
    {requirementDigest targetKind targetDigest stateSchema observerId sourceIdentity : String}
    {clockWitness : ClockWitness} {observedState : Json} {observation : PreconditionObservation}
    (created : create floats sha256 requirementDigest targetKind targetDigest stateSchema observerId
      sourceIdentity clockWitness observedState = .ok observation) :
    observation.observedStateDigest = sha256.hexdigest (canonicalJson observedState) := by
  simp only [create, bind_eq_ok, pure_eq_ok, Prod.exists] at created
  obtain ⟨_, _, stated, _, -, rfl⟩ := created
  exact (canonicalState_eq_ok stated).2

end PreconditionObservation

end VoodooOne
