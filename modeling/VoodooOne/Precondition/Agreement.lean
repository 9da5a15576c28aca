import VoodooOne.Precondition.Guard

/-!
# Creation and validation agree

Six valid objects have a witness exactly when they violate no condition.  A witness is accepted for
the six objects that it was created from and, digests being what they are, for no others.
-/

namespace VoodooOne

open Calendar

variable {floats : FloatRepr} {sha256 : Sha256}

/-- Six valid objects, with the moment of the observation. -/
structure PreconditionCase (floats : FloatRepr) (sha256 : Sha256) where
  parent : ParentAuthority sha256.hexdigest
  authority : ChildAuthority sha256.hexdigest
  monotonicDecision : MonotonicAuthorityDecision
  decided : monotonicDecision.postInit sha256.hexdigest = .ok ()
  requirement : PreconditionRequirement
  required : requirement.postInit sha256 = .ok ()
  expectation : PreconditionExpectation
  expected : expectation.postInit floats sha256 = .ok ()
  observation : PreconditionObservation
  observed : observation.postInit floats sha256 = .ok ()
  observedAt : Instant
  time : observation.observedAt = observedAt.isoformat

namespace PreconditionCase

def inputs (objects : PreconditionCase floats sha256) : PreconditionInputs where
  parent := objects.parent.scope
  authority := objects.authority.constraint
  monotonicDecision := objects.monotonicDecision
  requirement := objects.requirement
  expectation := objects.expectation
  observation := objects.observation

/-- The digest of the decision that the constraint is within the scope. -/
def computedDigest (objects : PreconditionCase floats sha256) : String :=
  digestOf sha256.hexdigest (MonotonicAuthorityDecision.claimsWithoutDigest
    ⟨objects.parent.scope.scopeDigest, objects.authority.constraint.constraintDigest,
      narrowOrEqual, ""⟩)

end PreconditionCase

/-- A binding between the six objects. -/
inductive PreconditionBinding where
  | monotonicAuthority
  | monotonicDecision
  | monotonicParentScope
  | monotonicChildConstraint
  | capabilityDefinition
  | requirementTargetKind
  | expectationParentScope
  | expectationAuthorityConstraint
  | expectationRequirement
  | observationRequirement
  | expectationTargetKind
  | observationTargetKind
  | expectationTargetDigest
  | observationTargetDigest
  | expectationStateSchema
  | observationStateSchema
  | observer
deriving DecidableEq, Repr

namespace PreconditionBinding

def code : PreconditionBinding → String
  | monotonicAuthority => "MONOTONIC_AUTHORITY_INVALID"
  | monotonicDecision => "MONOTONIC_AUTHORITY_DECISION_MISMATCH"
  | monotonicParentScope => "MONOTONIC_PARENT_SCOPE_MISMATCH"
  | monotonicChildConstraint => "MONOTONIC_CHILD_CONSTRAINT_MISMATCH"
  | capabilityDefinition => "CAPABILITY_DEFINITION_BINDING_MISMATCH"
  | requirementTargetKind => "REQUIREMENT_TARGET_KIND_MISMATCH"
  | expectationParentScope => "EXPECTATION_PARENT_SCOPE_MISMATCH"
  | expectationAuthorityConstraint => "EXPECTATION_AUTHORITY_CONSTRAINT_MISMATCH"
  | expectationRequirement => "EXPECTATION_REQUIREMENT_MISMATCH"
  | observationRequirement => "OBSERVATION_REQUIREMENT_MISMATCH"
  | expectationTargetKind => "EXPECTATION_TARGET_KIND_MISMATCH"
  | observationTargetKind => "OBSERVATION_TARGET_KIND_MISMATCH"
  | expectationTargetDigest => "EXPECTATION_TARGET_DIGEST_MISMATCH"
  | observationTargetDigest => "OBSERVATION_TARGET_DIGEST_MISMATCH"
  | expectationStateSchema => "EXPECTATION_STATE_SCHEMA_MISMATCH"
  | observationStateSchema => "OBSERVATION_STATE_SCHEMA_MISMATCH"
  | observer => "OBSERVER_BINDING_MISMATCH"

/-- The two sides of a binding that compares texts; the monotonic check is no such binding. -/
def sides (inputs : PreconditionInputs) : PreconditionBinding → Option (String × String)
  | monotonicAuthority | monotonicDecision => none
  | monotonicParentScope =>
      some (inputs.monotonicDecision.parentScopeDigest, inputs.parent.scopeDigest)
  | monotonicChildConstraint =>
      some (inputs.monotonicDecision.childConstraintDigest, inputs.authority.constraintDigest)
  | capabilityDefinition => some (inputs.requirement.capabilityDefinitionIdentity,
      inputs.authority.capabilityDefinitionIdentity)
  | requirementTargetKind => some (inputs.requirement.targetKind, inputs.authority.targetKind)
  | expectationParentScope =>
      some (inputs.expectation.parentScopeDigest, inputs.parent.scopeDigest)
  | expectationAuthorityConstraint =>
      some (inputs.expectation.authorityConstraintDigest, inputs.authority.constraintDigest)
  | expectationRequirement =>
      some (inputs.expectation.requirementDigest, inputs.requirement.requirementDigest)
  | observationRequirement =>
      some (inputs.observation.requirementDigest, inputs.requirement.requirementDigest)
  | expectationTargetKind => some (inputs.expectation.targetKind, inputs.authority.targetKind)
  | observationTargetKind => some (inputs.observation.targetKind, inputs.authority.targetKind)
  | expectationTargetDigest => some (inputs.expectation.targetDigest, inputs.authority.targetDigest)
  | observationTargetDigest => some (inputs.observation.targetDigest, inputs.authority.targetDigest)
  | expectationStateSchema => some (inputs.expectation.stateSchema, inputs.requirement.stateSchema)
  | observationStateSchema => some (inputs.observation.stateSchema, inputs.requirement.stateSchema)
  | observer => some (inputs.observation.observerId, inputs.requirement.observerId)

def Violated (objects : PreconditionCase floats sha256) : PreconditionBinding → Prop
  | monotonicAuthority => ¬objects.authority.Narrows objects.parent
  | monotonicDecision => objects.authority.Narrows objects.parent ∧
      objects.computedDigest ≠ objects.monotonicDecision.decisionDigest
  | binding => ∃ left right, binding.sides objects.inputs = some (left, right) ∧ left ≠ right

end PreconditionBinding

/-- What creation and validation both check of six objects. -/
inductive PreconditionCondition where
  | binding (bound : PreconditionBinding)
  | changed
  | beforeAuthority
  | afterExpiry
deriving DecidableEq, Repr

namespace PreconditionCondition

def code : PreconditionCondition → String
  | .binding bound => bound.code
  | .changed => "PRECONDITION_CHANGED"
  | .beforeAuthority => "PRECONDITION_CHECK_BEFORE_AUTHORITY"
  | .afterExpiry => "PRECONDITION_CHECK_AFTER_AUTHORITY_EXPIRY"

def Violated (objects : PreconditionCase floats sha256) : PreconditionCondition → Prop
  | .binding bound => bound.Violated objects
  | .changed => objects.expectation.expectedStateDigest ≠ objects.observation.observedStateDigest
  | .beforeAuthority => objects.observedAt < objects.authority.window.start
  | .afterExpiry => objects.authority.window.stop ≤ objects.observedAt

end PreconditionCondition

def WitnessField.code : WitnessField → String
  | parentScopeDigest => "WITNESS_PARENT_SCOPE_DIGEST_MISMATCH"
  | authorityConstraintDigest => "WITNESS_AUTHORITY_CONSTRAINT_DIGEST_MISMATCH"
  | monotonicAuthorityDecisionDigest => "WITNESS_MONOTONIC_AUTHORITY_DECISION_DIGEST_MISMATCH"
  | requirementDigest => "WITNESS_REQUIREMENT_DIGEST_MISMATCH"
  | expectationDigest => "WITNESS_EXPECTATION_DIGEST_MISMATCH"
  | observationDigest => "WITNESS_OBSERVATION_DIGEST_MISMATCH"
  | targetDigest => "WITNESS_TARGET_DIGEST_MISMATCH"
  | expectedStateDigest => "WITNESS_EXPECTED_STATE_DIGEST_MISMATCH"
  | observedStateDigest => "WITNESS_OBSERVED_STATE_DIGEST_MISMATCH"
  | observerId => "WITNESS_OBSERVER_ID_MISMATCH"
  | sourceIdentity => "WITNESS_SOURCE_IDENTITY_MISMATCH"
  | clockSourceIdentity => "WITNESS_CLOCK_SOURCE_IDENTITY_MISMATCH"
  | clockWitnessDigest => "WITNESS_CLOCK_WITNESS_DIGEST_MISMATCH"
  | checkedAt => "WITNESS_CHECKED_AT_MISMATCH"
  | enforcementClass => "WITNESS_ENFORCEMENT_CLASS_MISMATCH"

theorem WitnessField.code_name (field : WitnessField) :
    "WITNESS_" ++ upper field.name ++ "_MISMATCH" = field.code := by
  cases field <;> decide

namespace PreconditionCase

theorem decisionDigest_of_check {objects : PreconditionCase floats sha256}
    {computed : MonotonicAuthorityDecision}
    (accepted : MonotonicAuthorityChecker.check sha256.hexdigest objects.parent.scope
      objects.authority.constraint = .ok computed) :
    computed.decisionDigest = objects.computedDigest := by
  unfold MonotonicAuthorityChecker.check at accepted
  split at accepted
  · cases accepted
  · cases accepted
  · cases created : MonotonicAuthorityDecision.create sha256.hexdigest
        objects.parent.scope.scopeDigest objects.authority.constraint.constraintDigest with
    | error error =>
        rw [created] at accepted
        cases accepted
    | ok decision =>
        rw [created] at accepted
        obtain rfl : decision = computed := Except.ok.inj accepted
        simp only [MonotonicAuthorityDecision.create, bind_eq_ok, pure_eq_ok] at created
        obtain ⟨_, -, rfl⟩ := created
        rfl

/-- The monotonic check finds that the constraint is wider, or that the decision is another one. -/
theorem monotonicViolations_eq (objects : PreconditionCase floats sha256) : ∃ codes,
    objects.inputs.monotonicViolations sha256 = .ok codes ∧ ∀ code, code ∈ codes ↔
      PreconditionBinding.monotonicAuthority.Violated objects ∧
          code = PreconditionBinding.monotonicAuthority.code ∨
        PreconditionBinding.monotonicDecision.Violated objects ∧
          code = PreconditionBinding.monotonicDecision.code := by
  cases checked : MonotonicAuthorityChecker.check sha256.hexdigest objects.parent.scope
      objects.authority.constraint with
  | ok computed =>
      have narrows : objects.authority.Narrows objects.parent := accepts_iff.mp ⟨computed, checked⟩
      refine ⟨codeIf (computed.decisionDigest ≠ objects.monotonicDecision.decisionDigest)
        "MONOTONIC_AUTHORITY_DECISION_MISMATCH", ?_, fun code => ?_⟩
      · simp only [PreconditionInputs.monotonicViolations, inputs, checked]
        rfl
      · rw [mem_codeIf, decisionDigest_of_check checked]
        simp [PreconditionBinding.Violated, PreconditionBinding.code, narrows]
  | error failure =>
      have wider : ¬objects.authority.Narrows objects.parent := by
        intro narrows
        obtain ⟨computed, accepted⟩ := accepts_iff.mpr narrows
        exact absurd (checked.symm.trans accepted) (by simp)
      obtain ⟨violation, rfl, -⟩ := check_eq_error checked
      refine ⟨["MONOTONIC_AUTHORITY_INVALID"], ?_, fun code => ?_⟩
      · simp only [PreconditionInputs.monotonicViolations, inputs, checked]
      · simp [PreconditionBinding.Violated, PreconditionBinding.code, wider]

theorem bindingViolations_eq (objects : PreconditionCase floats sha256) : ∃ codes,
    objects.inputs.bindingViolations sha256 = .ok codes ∧ ∀ code, code ∈ codes ↔
      ∃ binding : PreconditionBinding, binding.Violated objects ∧ code = binding.code := by
  obtain ⟨monotonic, collected, mem_monotonic⟩ := objects.monotonicViolations_eq
  refine ⟨_, by rw [PreconditionInputs.bindingViolations, collected, ok_bind]; rfl, fun code => ?_⟩
  simp only [List.mem_append, mem_codeIf, mem_monotonic]
  constructor
  · intro listed
    rcases listed with (((((((((((((((own | held) | held) | held) | held) | held) | held) | held) |
      held) | held) | held) | held) | held) | held) | held) | held)
    · rcases own with held | held
      · exact ⟨_, held⟩
      · exact ⟨_, held⟩
    · exact ⟨.monotonicParentScope, ⟨_, _, rfl, held.1⟩, held.2⟩
    · exact ⟨.monotonicChildConstraint, ⟨_, _, rfl, held.1⟩, held.2⟩
    · exact ⟨.capabilityDefinition, ⟨_, _, rfl, held.1⟩, held.2⟩
    · exact ⟨.requirementTargetKind, ⟨_, _, rfl, held.1⟩, held.2⟩
    · exact ⟨.expectationParentScope, ⟨_, _, rfl, held.1⟩, held.2⟩
    · exact ⟨.expectationAuthorityConstraint, ⟨_, _, rfl, held.1⟩, held.2⟩
    · exact ⟨.expectationRequirement, ⟨_, _, rfl, held.1⟩, held.2⟩
    · exact ⟨.observationRequirement, ⟨_, _, rfl, held.1⟩, held.2⟩
    · exact ⟨.expectationTargetKind, ⟨_, _, rfl, held.1⟩, held.2⟩
    · exact ⟨.observationTargetKind, ⟨_, _, rfl, held.1⟩, held.2⟩
    · exact ⟨.expectationTargetDigest, ⟨_, _, rfl, held.1⟩, held.2⟩
    · exact ⟨.observationTargetDigest, ⟨_, _, rfl, held.1⟩, held.2⟩
    · exact ⟨.expectationStateSchema, ⟨_, _, rfl, held.1⟩, held.2⟩
    · exact ⟨.observationStateSchema, ⟨_, _, rfl, held.1⟩, held.2⟩
    · exact ⟨.observer, ⟨_, _, rfl, held.1⟩, held.2⟩
  · rintro ⟨binding, violated, rfl⟩
    cases binding with
    | monotonicAuthority => simp [violated]
    | monotonicDecision => simp [violated]
    | _ =>
        obtain ⟨_, _, sides, differ⟩ := violated
        cases sides
        simp only [differ, PreconditionBinding.code, ne_eq, not_false_eq_true, true_and, or_true,
          true_or]

theorem stateViolations_eq (objects : PreconditionCase floats sha256) : ∃ codes,
    objects.inputs.stateViolations = .ok codes ∧ ∀ code, code ∈ codes ↔
      PreconditionCondition.changed.Violated objects ∧ code = PreconditionCondition.changed.code ∨
      PreconditionCondition.beforeAuthority.Violated objects ∧
        code = PreconditionCondition.beforeAuthority.code ∨
      PreconditionCondition.afterExpiry.Violated objects ∧
        code = PreconditionCondition.afterExpiry.code := by
  have spans := objects.authority.spans
  obtain ⟨observedAt, checked⟩ := PreconditionObservation.checked_of_postInit objects.observed
  obtain rfl : observedAt = objects.observedAt :=
    Instant.isoformat_injective (checked.observedAt.1.symm.trans objects.time)
  have scopeStart : requireTimestamp (.str objects.inputs.authority.validFrom)
      "authority.valid_from" = .ok objects.authority.window.start := by
    rw [requireTimestamp_eq_ok, Json.str.injEq]
    exact spans.validFrom
  have scopeEnd : requireTimestamp (.str objects.inputs.authority.validUntil)
      "authority.valid_until" = .ok objects.authority.window.stop := by
    rw [requireTimestamp_eq_ok, Json.str.injEq]
    exact spans.validUntil
  have checkedAt : requireTimestamp (.str objects.inputs.observation.observedAt) "observed_at" =
      .ok objects.observedAt := by
    rw [requireTimestamp_eq_ok, Json.str.injEq]
    exact checked.observedAt
  refine ⟨_, by rw [PreconditionInputs.stateViolations, scopeStart, ok_bind, scopeEnd, ok_bind,
    checkedAt, ok_bind]; rfl, fun code => ?_⟩
  simp only [List.mem_append, mem_codeIf, or_assoc]
  rfl

/-- The codes that creation and validation both collect. -/
theorem violations_eq (objects : PreconditionCase floats sha256) : ∃ bindings state,
    objects.inputs.bindingViolations sha256 = .ok bindings ∧
      objects.inputs.stateViolations = .ok state ∧ ∀ code, code ∈ bindings ∨ code ∈ state ↔
        ∃ condition : PreconditionCondition, condition.Violated objects ∧
          code = condition.code := by
  obtain ⟨bindings, bound, mem_bindings⟩ := objects.bindingViolations_eq
  obtain ⟨state, stated, mem_state⟩ := objects.stateViolations_eq
  refine ⟨bindings, state, bound, stated, fun code => ?_⟩
  rw [mem_bindings, mem_state]
  constructor
  · rintro (⟨binding, held⟩ | held | held | held)
    · exact ⟨.binding binding, held⟩
    · exact ⟨.changed, held⟩
    · exact ⟨.beforeAuthority, held⟩
    · exact ⟨.afterExpiry, held⟩
  · rintro ⟨condition, held⟩
    cases condition with
    | binding binding => exact .inl ⟨binding, held⟩
    | changed => exact .inr (.inl held)
    | beforeAuthority => exact .inr (.inr (.inl held))
    | afterExpiry => exact .inr (.inr (.inr held))

/-- A witness of objects with equal states passes its own constructor. -/
theorem exists_issued (objects : PreconditionCase floats sha256)
    (unchanged : objects.expectation.expectedStateDigest =
      objects.observation.observedStateDigest) :
    ∃ witness, PreconditionWitness.issue sha256 objects.inputs = .ok witness := by
  obtain ⟨observedAt, checked⟩ := PreconditionObservation.checked_of_postInit objects.observed
  obtain ⟨enforced, requirementDigest⟩ := PreconditionRequirement.postInit_eq_ok objects.required
  obtain ⟨-, expectedStateDigest, expectationDigest⟩ :=
    PreconditionExpectation.postInit_eq_ok objects.expected
  have hashed {text digest : String} (same : digest = sha256.hexdigest text) : IsDigest digest :=
    same ▸ sha256.isDigest text
  have decisionDigest : IsDigest objects.monotonicDecision.decisionDigest := by
    have decided := objects.decided
    simp only [MonotonicAuthorityDecision.postInit, bind_eq_ok, raiseIf_eq_ok, not_not] at decided
    obtain ⟨_, -, _, -, _, -, same⟩ := decided
    exact hashed same
  have targetDigest : IsDigest objects.authority.constraint.targetDigest := by
    refine objects.authority.built.isDigests AuthorityConstraint.lawful
      [("target_digest", objects.authority.constraint.targetDigest)] ?_ _
      (List.mem_singleton_self _)
    simp [AuthorityConstraint.contract, AuthorityBindings.digestFields, requireDigests,
      AuthorityBindings.fields, ExactBinding.exactBindings, ExactBinding.field, ExactBinding.of]
  simp only [PreconditionWitness.issue, PreconditionWitness.postInit, bind_eq_ok, pure_eq_ok,
    raiseIf_eq_ok, not_not, requireDigestFields_eq_ok, requireTextFields_eq_ok,
    requireTimestamp_eq_ok, Json.str.injEq, List.forall_mem_cons]
  refine ⟨_, (), ⟨(), ⟨objects.parent.isDigest, objects.authority.isDigest, decisionDigest,
    hashed requirementDigest, hashed expectationDigest, hashed checked.digest, targetDigest,
    hashed expectedStateDigest, hashed checked.stateDigest, checked.clockWitnessDigest,
    sha256.isDigest _, List.forall_mem_nil _⟩, (),
      ⟨checked.texts.1, checked.texts.2.1, checked.texts.2.2,
    List.forall_mem_nil _⟩, observedAt, checked.observedAt, (), rfl, (), unchanged, (), enforced,
    rfl⟩, rfl⟩

/-- Six objects that violate no condition have a witness; others are denied with the codes of the
conditions that they violate. -/
theorem create_eq (objects : PreconditionCase floats sha256) :
    ((∀ condition : PreconditionCondition, ¬condition.Violated objects) ∧
      ∃ witness, PreconditionWitness.issue sha256 objects.inputs = .ok witness ∧
        PreconditionWitness.create sha256 objects.inputs = .ok witness) ∨
    ∃ violation condition, PreconditionCondition.Violated objects condition ∧
      PreconditionWitness.create sha256 objects.inputs = .error (.denied violation) ∧
      ∀ code, code ∈ violation.reasonCodes ↔
        ∃ condition : PreconditionCondition, condition.Violated objects ∧
          code = condition.code := by
  obtain ⟨bindings, state, bound, stated, mem_codes⟩ := objects.violations_eq
  have collected : PreconditionWitness.create sha256 objects.inputs =
      denyIfAny (bindings ++ state) >>= fun _ =>
        (PreconditionWitness.issue sha256 objects.inputs).mapError .invalid := by
    rw [PreconditionWitness.create, bound, stated]
    rfl
  simp only [← List.mem_append] at mem_codes
  rw [collected]
  cases codes : bindings ++ state with
  | nil =>
      have unviolated : ∀ condition : PreconditionCondition, ¬condition.Violated objects := by
        intro condition violated
        have listed := (mem_codes condition.code).mpr ⟨condition, violated, rfl⟩
        rw [codes] at listed
        exact absurd listed List.not_mem_nil
      obtain ⟨witness, issued⟩ := objects.exists_issued (not_not.mp (unviolated .changed))
      exact .inl ⟨unviolated, witness, issued, by rw [issued]; rfl⟩
  | cons first rest =>
      obtain ⟨condition, violated, -⟩ := (mem_codes first).mp (codes ▸ List.mem_cons_self ..)
      refine .inr ⟨.ofCodes first rest, condition, violated, rfl, fun code => ?_⟩
      rw [PreconditionViolation.mem_ofCodes, ← codes, mem_codes]

theorem create_eq_ok {objects : PreconditionCase floats sha256} {witness : PreconditionWitness} :
    PreconditionWitness.create sha256 objects.inputs = .ok witness ↔
      (∀ condition : PreconditionCondition, ¬condition.Violated objects) ∧
        PreconditionWitness.issue sha256 objects.inputs = .ok witness := by
  rcases objects.create_eq with ⟨unviolated, issued, isIssued, created⟩ |
    ⟨violation, condition, violated, denied, -⟩
  · rw [created, isIssued, Except.ok.injEq, Except.ok.injEq]
    exact ⟨fun same => ⟨unviolated, same⟩, fun both => both.2⟩
  · rw [denied]
    constructor
    · intro same
      cases same
    · intro both
      exact absurd violated (both.1 condition)

/-- No condition is violated when every binding holds and the expected state was observed while the
constraint was valid. -/
theorem unviolated_iff {objects : PreconditionCase floats sha256} :
    (∀ condition : PreconditionCondition, ¬condition.Violated objects) ↔
      (∀ binding : PreconditionBinding, ¬binding.Violated objects) ∧
        objects.expectation.expectedStateDigest = objects.observation.observedStateDigest ∧
        objects.observedAt ∈ objects.authority.window.moments := by
  constructor
  · intro unviolated
    exact ⟨fun binding => unviolated (.binding binding), not_not.mp (unviolated .changed),
      not_lt.mp (unviolated .beforeAuthority), not_le.mp (unviolated .afterExpiry)⟩
  · rintro ⟨bindings, unchanged, started, running⟩ condition
    cases condition with
    | binding binding => exact bindings binding
    | changed => exact not_not.mpr unchanged
    | beforeAuthority => exact not_lt.mpr started
    | afterExpiry => exact not_le.mpr running

theorem create_eq_error {objects : PreconditionCase floats sha256} {failure : PreconditionFailure}
    (rejected : PreconditionWitness.create sha256 objects.inputs = .error failure) :
    ∃ violation, failure = .denied violation ∧ ∀ code, code ∈ violation.reasonCodes ↔
      ∃ condition : PreconditionCondition, condition.Violated objects ∧ code = condition.code := by
  rcases objects.create_eq with ⟨-, witness, -, created⟩ | ⟨violation, -, -, denied, codes⟩
  · rw [created] at rejected
    cases rejected
  · rw [denied] at rejected
    exact ⟨violation, (Except.error.inj rejected).symm, codes⟩

theorem validateBindings_eq (objects : PreconditionCase floats sha256)
    (witness : PreconditionWitness) : ∃ codes,
    witness.validateBindings sha256 objects.inputs = denyIfAny codes ∧ ∀ code, code ∈ codes ↔
      (∃ condition : PreconditionCondition, condition.Violated objects ∧ code = condition.code) ∨
      ∃ field : WitnessField, field.held witness ≠ field.expected objects.inputs ∧
        code = field.code := by
  obtain ⟨bindings, state, bound, stated, mem_codes⟩ := objects.violations_eq
  refine ⟨_, by rw [PreconditionWitness.validateBindings, bound, stated]; rfl, fun code => ?_⟩
  simp only [List.mem_append, List.mem_flatMap, WitnessField.mem_fields, true_and, mem_codeIf,
    WitnessField.code_name]
  rw [or_right_comm, mem_codes]

theorem validateBindings_eq_ok {objects : PreconditionCase floats sha256}
    {witness : PreconditionWitness} {result : Unit} :
    witness.validateBindings sha256 objects.inputs = .ok result ↔
      (∀ condition : PreconditionCondition, ¬condition.Violated objects) ∧
        ∀ field : WitnessField, field.held witness = field.expected objects.inputs := by
  obtain ⟨codes, collected, mem_codes⟩ := objects.validateBindings_eq witness
  rw [collected, denyIfAny_eq_ok, List.eq_nil_iff_forall_not_mem]
  constructor
  · intro none
    refine ⟨fun condition violated => none _ ((mem_codes _).mpr (.inl ⟨condition, violated, rfl⟩)),
      fun field => ?_⟩
    by_contra differs
    exact none _ ((mem_codes _).mpr (.inr ⟨field, differs, rfl⟩))
  · rintro ⟨unviolated, same⟩ code listed
    rcases (mem_codes code).mp listed with ⟨condition, violated, -⟩ | ⟨field, differs, -⟩
    · exact unviolated condition violated
    · exact differs (same field)

theorem validateBindings_eq_error {objects : PreconditionCase floats sha256}
    {witness : PreconditionWitness} {failure : PreconditionFailure}
    (rejected : witness.validateBindings sha256 objects.inputs = .error failure) :
    ∃ violation, failure = .denied violation ∧ ∀ code, code ∈ violation.reasonCodes ↔
      (∃ condition : PreconditionCondition, condition.Violated objects ∧ code = condition.code) ∨
      ∃ field : WitnessField, field.held witness ≠ field.expected objects.inputs ∧
        code = field.code := by
  obtain ⟨codes, collected, mem_codes⟩ := objects.validateBindings_eq witness
  rw [collected] at rejected
  obtain ⟨violation, isDenied, same⟩ := exists_of_denyIfAny rejected
  exact ⟨violation, isDenied, fun code => (same code).trans (mem_codes code)⟩

theorem held_of_issue {objects : PreconditionCase floats sha256} {witness : PreconditionWitness}
    (issued : PreconditionWitness.issue sha256 objects.inputs = .ok witness)
    (field : WitnessField) : field.held witness = field.expected objects.inputs := by
  simp only [PreconditionWitness.issue, bind_eq_ok, pure_eq_ok] at issued
  obtain ⟨_, -, rfl⟩ := issued
  cases field <;> rfl

end PreconditionCase

theorem normalFields_eq_or_collision {left right : List (String × Json)}
    (keys : left.map Prod.fst = right.map Prod.fst) (distinct : (left.map Prod.fst).Nodup)
    (leftEach : ∀ field ∈ left, field.2.WellFormed floats)
    (rightEach : ∀ field ∈ right, field.2.WellFormed floats)
    (digests : digestOf sha256.hexdigest (.object left) =
      digestOf sha256.hexdigest (.object right)) :
    Json.normalFields left = Json.normalFields right ∨
      Collision sha256.hexdigest (canonicalJson (.object left))
        (canonicalJson (.object right)) := by
  by_cases texts : canonicalJson (.object left) = canonicalJson (.object right)
  · exact .inl (fields_of_canonicalJson keys distinct leftEach rightEach texts)
  · exact .inr ⟨texts, digests⟩

theorem wellFormed_version : Json.WellFormed floats (.int 1) := .int 1 (by decide)

theorem AuthorityScope.eq_or_collision {left right : AuthorityScope}
    (leftBuilt : contract.Built sha256.hexdigest left)
    (rightBuilt : contract.Built sha256.hexdigest right)
    (digests : left.scopeDigest = right.scopeDigest) : left = right ∨
      Collision sha256.hexdigest (contract.digestText left) (contract.digestText right) := by
  by_cases same : left = right
  · exact .inl same
  · have alike : List.Forall₂ AlikeField (contract.claims left) (contract.claims right) := by
      simp [contract, AuthorityBindings.fields, ExactBinding.exactBindings, AlikeField]
    have either := Contract.digest_ne_or_collision lawful alike leftBuilt rightBuilt same
    exact .inr (either.resolve_left (not_not.mpr digests))

theorem AuthorityConstraint.eq_or_collision {left right : AuthorityConstraint}
    (leftBuilt : contract.Built sha256.hexdigest left)
    (rightBuilt : contract.Built sha256.hexdigest right)
    (digests : left.constraintDigest = right.constraintDigest) : left = right ∨
      Collision sha256.hexdigest (contract.digestText left) (contract.digestText right) := by
  by_cases same : left = right
  · exact .inl same
  · have alike : List.Forall₂ AlikeField (contract.claims left) (contract.claims right) := by
      simp [contract, AuthorityBindings.fields, ExactBinding.exactBindings, AlikeField]
    have either := Contract.digest_ne_or_collision lawful alike leftBuilt rightBuilt same
    exact .inr (either.resolve_left (not_not.mpr digests))

def MonotonicAuthorityDecision.claimFields (decision : MonotonicAuthorityDecision) :
    List (String × Json) :=
  [("schema_version", .int 1), ("decision_type", .str "monotonic-authority-decision/v1"),
    ("parent_scope_digest", .str decision.parentScopeDigest),
    ("child_constraint_digest", .str decision.childConstraintDigest),
    ("relation", .str decision.relation)]

theorem MonotonicAuthorityDecision.eq_or_collision (floats : FloatRepr)
    {left right : MonotonicAuthorityDecision} (leftPassed : left.postInit sha256.hexdigest = .ok ())
    (rightPassed : right.postInit sha256.hexdigest = .ok ())
    (digests : left.decisionDigest = right.decisionDigest) : left = right ∨
      Collision sha256.hexdigest (canonicalJson (.object left.claimFields))
        (canonicalJson (.object right.claimFields)) := by
  have hashed {decision : MonotonicAuthorityDecision}
      (passed : decision.postInit sha256.hexdigest = .ok ()) :
      decision.decisionDigest = digestOf sha256.hexdigest (.object decision.claimFields) := by
    simp only [postInit, bind_eq_ok, raiseIf_eq_ok, not_not] at passed
    obtain ⟨_, -, _, -, _, -, same⟩ := passed
    exact same
  have wellFormed (decision : MonotonicAuthorityDecision) :
      ∀ field ∈ decision.claimFields, field.2.WellFormed floats := by
    simp only [claimFields, List.forall_mem_cons]
    exact ⟨wellFormed_version, .str _, .str _, .str _, .str _, List.forall_mem_nil _⟩
  have keys : left.claimFields.map Prod.fst = right.claimFields.map Prod.fst := rfl
  have either := normalFields_eq_or_collision keys (by simp [claimFields]) (wellFormed left)
    (wellFormed right) ((hashed leftPassed).symm.trans (digests.trans (hashed rightPassed)))
  refine either.imp_left fun same => ?_
  simp only [claimFields, Json.normalFields, Json.normal, List.cons.injEq, Prod.mk.injEq,
    Json.str.injEq, true_and, and_true] at same
  cases left
  cases right
  simp_all

theorem PreconditionRequirement.eq_or_collision (floats : FloatRepr)
    {left right : PreconditionRequirement} (leftPassed : left.postInit sha256 = .ok ())
    (rightPassed : right.postInit sha256 = .ok ())
    (digests : left.requirementDigest = right.requirementDigest) : left = right ∨
      Collision sha256.hexdigest (canonicalJson (.object left.claimFields))
        (canonicalJson (.object right.claimFields)) := by
  have wellFormed (requirement : PreconditionRequirement) :
      ∀ field ∈ requirement.claimFields, field.2.WellFormed floats := by
    simp only [claimFields, List.forall_mem_cons]
    exact ⟨wellFormed_version, .str _, .str _, .str _, .str _, .str _, .str _, .str _, .str _,
      .str _, List.forall_mem_nil _⟩
  have keys : left.claimFields.map Prod.fst = right.claimFields.map Prod.fst := rfl
  have either := normalFields_eq_or_collision keys (by simp [claimFields]) (wellFormed left)
    (wellFormed right)
    ((postInit_eq_ok leftPassed).2.symm.trans (digests.trans (postInit_eq_ok rightPassed).2))
  refine either.imp_left fun same => ?_
  simp only [claimFields, Json.normalFields, Json.normal, List.cons.injEq, Prod.mk.injEq,
    Json.str.injEq, true_and, and_true] at same
  cases left
  cases right
  simp_all

theorem eq_of_decodedState {left right : String}
    (leftText : left = canonicalJson (decodedState floats left))
    (rightText : right = canonicalJson (decodedState floats right))
    (same : (decodedState floats left).normal = (decodedState floats right).normal) :
      left = right := by
  rw [leftText, rightText, ← canonicalJson_normal, same, canonicalJson_normal]

theorem PreconditionExpectation.eq_or_collision {left right : PreconditionExpectation}
    (leftPassed : left.postInit floats sha256 = .ok ())
    (rightPassed : right.postInit floats sha256 = .ok ())
    (digests : left.expectationDigest = right.expectationDigest) : left = right ∨
      Collision sha256.hexdigest (canonicalJson (.object (left.claimFields floats)))
        (canonicalJson (.object (right.claimFields floats))) := by
  have wellFormed {expectation : PreconditionExpectation}
      (passed : expectation.postInit floats sha256 = .ok ()) :
      ∀ field ∈ expectation.claimFields floats, field.2.WellFormed floats := by
    simp only [claimFields, List.forall_mem_cons]
    exact ⟨wellFormed_version, .str _, .str _, .str _, .str _, .str _, .str _, .str _,
      (postInit_eq_ok passed).1.1, .str _, List.forall_mem_nil _⟩
  have keys : (left.claimFields floats).map Prod.fst = (right.claimFields floats).map Prod.fst :=
    rfl
  have either := normalFields_eq_or_collision keys (by simp [claimFields]) (wellFormed leftPassed)
    (wellFormed rightPassed)
    ((postInit_eq_ok leftPassed).2.2.symm.trans (digests.trans (postInit_eq_ok rightPassed).2.2))
  refine either.imp_left fun same => ?_
  simp only [claimFields, Json.normalFields, Json.normal, List.cons.injEq, Prod.mk.injEq,
    Json.str.injEq, true_and, and_true] at same
  have state := eq_of_decodedState (postInit_eq_ok leftPassed).1.2 (postInit_eq_ok rightPassed).1.2
    same.2.2.2.2.2.2.1
  cases left
  cases right
  simp_all

theorem PreconditionObservation.eq_or_collision {left right : PreconditionObservation}
    (leftPassed : left.postInit floats sha256 = .ok ())
    (rightPassed : right.postInit floats sha256 = .ok ())
    (digests : left.observationDigest = right.observationDigest) : left = right ∨
      Collision sha256.hexdigest (canonicalJson (.object (left.claimFields floats)))
        (canonicalJson (.object (right.claimFields floats))) := by
  obtain ⟨_, leftChecked⟩ := checked_of_postInit leftPassed
  obtain ⟨_, rightChecked⟩ := checked_of_postInit rightPassed
  have wellFormed {observation : PreconditionObservation} {observedAt : Instant}
      (checked : observation.Checked floats sha256 observedAt) :
      ∀ field ∈ observation.claimFields floats, field.2.WellFormed floats := by
    simp only [claimFields, List.forall_mem_cons]
    exact ⟨wellFormed_version, .str _, .str _, .str _, .str _, .str _, .str _, .str _, .str _,
      .str _, .str _, checked.state.1, .str _, List.forall_mem_nil _⟩
  have keys : (left.claimFields floats).map Prod.fst = (right.claimFields floats).map Prod.fst :=
    rfl
  have either := normalFields_eq_or_collision keys (by simp [claimFields]) (wellFormed leftChecked)
    (wellFormed rightChecked) (leftChecked.digest.symm.trans (digests.trans rightChecked.digest))
  refine either.imp_left fun same => ?_
  simp only [claimFields, Json.normalFields, Json.normal, List.cons.injEq, Prod.mk.injEq,
    Json.str.injEq, true_and, and_true] at same
  have state := eq_of_decodedState leftChecked.state.2 rightChecked.state.2 same.2.2.2.2.2.2.2.2.2.1
  cases left
  cases right
  simp_all

namespace PreconditionInputs

def digests (inputs : PreconditionInputs) : List String :=
  [inputs.parent.scopeDigest, inputs.authority.constraintDigest,
    inputs.monotonicDecision.decisionDigest, inputs.requirement.requirementDigest,
    inputs.expectation.expectationDigest, inputs.observation.observationDigest]

def digestTexts (floats : FloatRepr) (inputs : PreconditionInputs) : List String :=
  [AuthorityScope.contract.digestText inputs.parent,
    AuthorityConstraint.contract.digestText inputs.authority] ++
  [inputs.monotonicDecision.claimFields, inputs.requirement.claimFields,
    inputs.expectation.claimFields floats, inputs.observation.claimFields floats].map
    fun fields => canonicalJson (.object fields)

end PreconditionInputs

theorem PreconditionCase.eq_or_collision {objects others : PreconditionCase floats sha256}
    (digests : others.inputs.digests = objects.inputs.digests) : others.inputs = objects.inputs ∨
      ∃ pair ∈ (others.inputs.digestTexts floats).zip (objects.inputs.digestTexts floats),
        Collision sha256.hexdigest pair.1 pair.2 := by
  simp only [PreconditionInputs.digests, List.cons.injEq, and_true] at digests
  obtain ⟨parent, authority, decision, requirement, expectation, observation⟩ := digests
  simp only [PreconditionInputs.digestTexts, List.map_cons, List.map_nil, List.cons_append,
    List.nil_append, List.zip_cons_cons, List.zip_nil_left, List.mem_cons, List.not_mem_nil,
    or_false, exists_eq_or_imp, exists_eq_left]
  rcases AuthorityScope.eq_or_collision others.parent.built objects.parent.built parent with
    sameParent | collision
  · rcases AuthorityConstraint.eq_or_collision others.authority.built objects.authority.built
      authority with sameAuthority | collision
    · rcases MonotonicAuthorityDecision.eq_or_collision floats others.decided objects.decided
        decision with sameDecision | collision
      · rcases PreconditionRequirement.eq_or_collision floats others.required objects.required
          requirement with sameRequirement | collision
        · rcases PreconditionExpectation.eq_or_collision others.expected objects.expected
            expectation with sameExpectation | collision
          · rcases PreconditionObservation.eq_or_collision others.observed objects.observed
              observation with sameObservation | collision
            · left
              simp only [inputs, sameParent, sameAuthority, sameDecision, sameRequirement,
                sameExpectation, sameObservation]
            · exact .inr (.inr (.inr (.inr (.inr (.inr collision)))))
          · exact .inr (.inr (.inr (.inr (.inr (.inl collision)))))
        · exact .inr (.inr (.inr (.inr (.inl collision))))
      · exact .inr (.inr (.inr (.inl collision)))
    · exact .inr (.inr (.inl collision))
  · exact .inr (.inl collision)

def reportedCode : PreconditionCondition ⊕ WitnessField → String :=
  Sum.elim PreconditionCondition.code WitnessField.code

def reported : List (PreconditionCondition ⊕ WitnessField) :=
  (([.monotonicAuthority, .monotonicDecision, .monotonicParentScope, .monotonicChildConstraint,
    .capabilityDefinition, .requirementTargetKind, .expectationParentScope,
    .expectationAuthorityConstraint, .expectationRequirement, .observationRequirement,
    .expectationTargetKind, .observationTargetKind, .expectationTargetDigest,
    .observationTargetDigest, .expectationStateSchema, .observationStateSchema,
    .observer] : List PreconditionBinding).map (.inl ∘ .binding)) ++
  [.inl .changed, .inl .beforeAuthority, .inl .afterExpiry] ++ WitnessField.fields.map .inr

theorem reportedCode_injective : Function.Injective reportedCode := by
  have listed (fault : PreconditionCondition ⊕ WitnessField) : fault ∈ reported := by
    rcases fault with condition | field
    · cases condition with
      | binding binding => cases binding <;> simp [reported]
      | _ => simp [reported]
    · simp [reported, WitnessField.mem_fields]
  have distinct : (reported.map reportedCode).Nodup := by decide
  exact fun left right same => List.inj_on_of_nodup_map distinct (listed left) (listed right) same

/-- Creation and validation agree.  Creation succeeds when no condition is violated, and otherwise
reports the violated ones.  A witness that was created is accepted for objects with the digests of
its own, up to collisions of the digest function, and for no others; a denied validation reports the
violated conditions and the fields that differ.  The guard issues witnesses of equal states only. -/
theorem PreconditionWitness.create_validateBindings (floats : FloatRepr) (sha256 : Sha256) :
    (∀ objects : PreconditionCase floats sha256,
      ((∃ witness, create sha256 objects.inputs = .ok witness) ↔
        (∀ binding : PreconditionBinding, ¬binding.Violated objects) ∧
          objects.expectation.expectedStateDigest = objects.observation.observedStateDigest ∧
          objects.observedAt ∈ objects.authority.window.moments) ∧
      ∀ failure, create sha256 objects.inputs = .error failure →
        ∃ violation, failure = .denied violation ∧ {code | code ∈ violation.reasonCodes} =
          PreconditionCondition.code '' {condition | condition.Violated objects}) ∧
    (∀ (objects others : PreconditionCase floats sha256) (witness : PreconditionWitness),
      create sha256 objects.inputs = .ok witness →
        (witness.validateBindings sha256 others.inputs = .ok () →
          others.inputs.digests = objects.inputs.digests) ∧
        (others.inputs.digests = objects.inputs.digests →
          witness.validateBindings sha256 others.inputs = .ok () ∨
            ∃ pair ∈ (others.inputs.digestTexts floats).zip (objects.inputs.digestTexts floats),
              Collision sha256.hexdigest pair.1 pair.2)) ∧
    (∀ (objects : PreconditionCase floats sha256) (witness : PreconditionWitness) (failure),
      witness.validateBindings sha256 objects.inputs = .error failure →
        ∃ violation, failure = .denied violation ∧ {code | code ∈ violation.reasonCodes} =
          PreconditionCondition.code '' {condition | condition.Violated objects} ∪
          WitnessField.code '' {field | field.held witness ≠ field.expected objects.inputs}) ∧
    Function.Injective reportedCode ∧
    ∀ (guard : PreconditionGuard) (parent : AuthorityScope) (authority : AuthorityConstraint)
      (monotonicDecision : MonotonicAuthorityDecision) (target : ExecutionTarget)
      (reading : ClockReading) (witness : PreconditionWitness),
      guard.witness floats sha256 parent authority monotonicDecision target reading = .ok witness →
        ∃ requirement binder observer expectedState observedState,
          guard.resolveRequirement authority.capabilityDefinitionIdentity = .ok requirement ∧
          guard.resolveBinder requirement.expectationBinderId = .ok binder ∧
          guard.resolveObserver requirement.observerId = .ok observer ∧
          binder.bindExpected target = .ok expectedState ∧
          observer.observe target = .ok observedState ∧
          (canonicalJson expectedState = canonicalJson observedState ∨
            Collision sha256.hexdigest (canonicalJson expectedState)
              (canonicalJson observedState)) := by
  refine ⟨fun objects => ⟨?_, fun failure rejected => ?_⟩, fun objects others witness created =>
    ⟨fun accepted => ?_, fun digests => ?_⟩, fun objects witness failure rejected => ?_,
    reportedCode_injective, fun guard parent authority decision target reading witness =>
      PreconditionGuard.states_of_witness⟩
  · rw [← PreconditionCase.unviolated_iff]
    constructor
    · rintro ⟨witness, created⟩
      exact (PreconditionCase.create_eq_ok.mp created).1
    · intro unviolated
      have unchanged := not_not.mp (unviolated .changed)
      obtain ⟨witness, issued⟩ := objects.exists_issued unchanged
      exact ⟨witness, PreconditionCase.create_eq_ok.mpr ⟨unviolated, issued⟩⟩
  · obtain ⟨violation, denied, codes⟩ := PreconditionCase.create_eq_error rejected
    refine ⟨violation, denied, Set.ext fun code => (codes code).trans ?_⟩
    simp only [Set.mem_image, Set.mem_ofPred_eq, eq_comm]
  · have issued := (PreconditionCase.create_eq_ok.mp created).2
    have same := (PreconditionCase.validateBindings_eq_ok.mp accepted).2
    have expected (field : WitnessField) : field.expected others.inputs =
        field.expected objects.inputs :=
      (same field).symm.trans (PreconditionCase.held_of_issue issued field)
    simp only [PreconditionInputs.digests, List.cons.injEq, and_true]
    exact ⟨expected .parentScopeDigest, expected .authorityConstraintDigest,
      expected .monotonicAuthorityDecisionDigest, expected .requirementDigest,
      expected .expectationDigest, expected .observationDigest⟩
  · obtain ⟨unviolated, issued⟩ := PreconditionCase.create_eq_ok.mp created
    refine (PreconditionCase.eq_or_collision digests).imp_left fun same => ?_
    rw [same]
    exact PreconditionCase.validateBindings_eq_ok.mpr
      ⟨unviolated, PreconditionCase.held_of_issue issued⟩
  · obtain ⟨violation, denied, codes⟩ := PreconditionCase.validateBindings_eq_error rejected
    refine ⟨violation, denied, Set.ext fun code => (codes code).trans ?_⟩
    simp only [Set.mem_union, Set.mem_image, Set.mem_ofPred_eq, eq_comm]

end VoodooOne
