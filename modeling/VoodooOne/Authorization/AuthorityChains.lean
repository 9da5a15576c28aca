import VoodooOne.Authorization.Monotonic

/-!
# Chains of authority

The monotonic check accepts a constraint exactly when it is no wider than its scope, and reports
exactly the dimensions in which it is.  Along a chain of accepted constraints no authority is
gained.
-/

namespace VoodooOne

open Calendar

/-- A scope that was built, and the window in which it is valid. -/
structure ParentAuthority (sha256 : String → String) where
  scope : AuthorityScope
  built : AuthorityScope.contract.Built sha256 scope
  window : Window Instant
  spans : scope.Spans window

/-- A constraint that was built, and the window in which it is valid. -/
structure ChildAuthority (sha256 : String → String) where
  constraint : AuthorityConstraint
  built : AuthorityConstraint.contract.Built sha256 constraint
  window : Window Instant
  spans : constraint.Spans window

variable {sha256 : String → String}

theorem exists_parentAuthority {scope : AuthorityScope}
    (built : AuthorityScope.contract.Built sha256 scope) :
    ∃ parent : ParentAuthority sha256, parent.scope = scope := by
  obtain ⟨window, spans⟩ := AuthorityBindings.requireInterval_eq_ok.mp built.checked
  exact ⟨⟨scope, built, window, spans⟩, rfl⟩

theorem exists_childAuthority {constraint : AuthorityConstraint}
    (built : AuthorityConstraint.contract.Built sha256 constraint) :
    ∃ child : ChildAuthority sha256, child.constraint = constraint := by
  obtain ⟨window, spans⟩ := AuthorityBindings.requireInterval_eq_ok.mp built.checked
  exact ⟨⟨constraint, built, window, spans⟩, rfl⟩

theorem ParentAuthority.isDigest (parent : ParentAuthority sha256) :
    IsDigest parent.scope.scopeDigest := by
  have digests := parent.built.isDigests AuthorityScope.lawful
    [("scope_digest", parent.scope.scopeDigest)] (by
      simp [AuthorityScope.contract, AuthorityBindings.digestFields, requireDigests])
  exact digests _ (List.mem_singleton_self _)

theorem ChildAuthority.isDigest (child : ChildAuthority sha256) :
    IsDigest child.constraint.constraintDigest := by
  have digests := child.built.isDigests AuthorityConstraint.lawful
    [("constraint_digest", child.constraint.constraintDigest)] (by
      simp [AuthorityConstraint.contract, AuthorityBindings.digestFields, requireDigests])
  exact digests _ (List.mem_singleton_self _)

theorem ChildAuthority.useSemantics (child : ChildAuthority sha256) :
    child.constraint.useSemantics = oneTimeUse := by
  have checked : .equals "use_semantics" oneTimeUse "use_semantics must be ONE_TIME" ∈
      AuthorityConstraint.contract.checks := by
    simp [AuthorityConstraint.contract]
  have read : ("use_semantics", .str child.constraint.useSemantics) ∈
      AuthorityConstraint.contract.claims child.constraint ++
        [("constraint_digest", .str (AuthorityConstraint.contract.digest child.constraint))] := by
    simp [AuthorityConstraint.contract]
  exact (child.built.held AuthorityConstraint.lawful checked read).2

/-- A constraint is no wider than a scope. -/
structure ChildAuthority.Narrows (child : ChildAuthority sha256) (parent : ParentAuthority sha256) :
    Prop where
  names : child.constraint.parentScopeDigest = parent.scope.scopeDigest
  exact : ∀ binding : ExactBinding,
    binding.of child.constraint.toAuthorityBindings = binding.of parent.scope.toAuthorityBindings
  within : child.window ≤ parent.window

def AuthorityDimension.Violated (parent : ParentAuthority sha256) (child : ChildAuthority sha256) :
    AuthorityDimension → Prop
  | parentScope => child.constraint.parentScopeDigest ≠ parent.scope.scopeDigest
  | exact binding =>
      binding.of child.constraint.toAuthorityBindings ≠ binding.of parent.scope.toAuthorityBindings
  | validFrom => child.window.start < parent.window.start
  | validUntil => parent.window.stop < child.window.stop
  | startAfterExpiry => parent.window.stop ≤ child.window.start

theorem MonotonicAuthorityChecker.violations_eq (parent : ParentAuthority sha256)
    (child : ChildAuthority sha256) : ∃ codes,
    violations parent.scope child.constraint = .ok codes ∧
      ∀ code, code ∈ codes ↔ ∃ dimension : AuthorityDimension,
        dimension.Violated parent child ∧ code = dimension.code := by
  have parentStart : requireTimestamp (.str parent.scope.validFrom) "parent.valid_from" =
      .ok parent.window.start := by
    rw [requireTimestamp_eq_ok, Json.str.injEq]
    exact parent.spans.validFrom
  have parentEnd : requireTimestamp (.str parent.scope.validUntil) "parent.valid_until" =
      .ok parent.window.stop := by
    rw [requireTimestamp_eq_ok, Json.str.injEq]
    exact parent.spans.validUntil
  have childStart : requireTimestamp (.str child.constraint.validFrom) "child.valid_from" =
      .ok child.window.start := by
    rw [requireTimestamp_eq_ok, Json.str.injEq]
    exact child.spans.validFrom
  have childEnd : requireTimestamp (.str child.constraint.validUntil) "child.valid_until" =
      .ok child.window.stop := by
    rw [requireTimestamp_eq_ok, Json.str.injEq]
    exact child.spans.validUntil
  refine ⟨_, by rw [violations, parentStart, ok_bind, parentEnd, ok_bind, childStart, ok_bind,
    childEnd, ok_bind]; rfl, fun code => ?_⟩
  simp only [List.mem_append, mem_codeIf, List.mem_flatMap, ExactBinding.mem_exactBindings,
    true_and, ExactBinding.code_exact, child.useSemantics, ne_eq, not_true_eq_false, false_and,
    or_false]
  constructor
  · rintro ((((⟨bound, rfl⟩ | ⟨binding, differs, rfl⟩) | ⟨early, rfl⟩) | ⟨late, rfl⟩) |
      ⟨after, rfl⟩)
    · exact ⟨.parentScope, bound, rfl⟩
    · exact ⟨.exact binding, differs, rfl⟩
    · exact ⟨.validFrom, early, rfl⟩
    · exact ⟨.validUntil, late, rfl⟩
    · exact ⟨.startAfterExpiry, after, rfl⟩
  · rintro ⟨dimension, violated, rfl⟩
    cases dimension with
    | parentScope => exact .inl (.inl (.inl (.inl ⟨violated, rfl⟩)))
    | exact binding => exact .inl (.inl (.inl (.inr ⟨binding, violated, rfl⟩)))
    | validFrom => exact .inl (.inl (.inr ⟨violated, rfl⟩))
    | validUntil => exact .inl (.inr ⟨violated, rfl⟩)
    | startAfterExpiry => exact .inr ⟨violated, rfl⟩

/-- A constraint is no wider than a scope when no dimension is violated. -/
theorem ChildAuthority.narrows_iff {child : ChildAuthority sha256}
    {parent : ParentAuthority sha256} :
    child.Narrows parent ↔ ∀ dimension : AuthorityDimension, ¬dimension.Violated parent child := by
  constructor
  · intro narrows dimension violated
    have within := Window.le_iff.mp narrows.within
    cases dimension with
    | parentScope => exact violated narrows.names
    | exact binding => exact violated (narrows.exact binding)
    | validFrom => exact absurd violated (not_lt.mpr within.1)
    | validUntil => exact absurd violated (not_lt.mpr within.2)
    | startAfterExpiry =>
        -- a window that starts after another stops also stops after it
        have later := lt_of_le_of_lt violated child.window.nonempty
        exact absurd later (not_lt.mpr within.2)
  · intro noneViolated
    exact ⟨not_not.mp (noneViolated .parentScope),
      fun binding => not_not.mp (noneViolated (.exact binding)),
      Window.le_iff.mpr ⟨not_lt.mp (noneViolated .validFrom), not_lt.mp (noneViolated .validUntil)⟩⟩

theorem exists_decision (parent : ParentAuthority sha256) (child : ChildAuthority sha256) :
    ∃ decision, MonotonicAuthorityDecision.create sha256 parent.scope.scopeDigest
      child.constraint.constraintDigest = .ok decision :=
  MonotonicAuthorityDecision.create_eq_ok.mpr ⟨parent.isDigest, child.isDigest⟩

def Accepts (parent : ParentAuthority sha256) (child : ChildAuthority sha256) : Prop :=
  ∃ decision, MonotonicAuthorityChecker.check sha256 parent.scope child.constraint = .ok decision

theorem accepts_iff {parent : ParentAuthority sha256} {child : ChildAuthority sha256} :
    Accepts parent child ↔ child.Narrows parent := by
  obtain ⟨codes, collected, mem_codes⟩ := MonotonicAuthorityChecker.violations_eq parent child
  rw [ChildAuthority.narrows_iff, Accepts, MonotonicAuthorityChecker.check, collected]
  cases codes with
  | nil =>
      obtain ⟨decision, created⟩ := exists_decision parent child
      refine ⟨fun _ dimension violated => ?_, fun _ => ⟨decision, ?_⟩⟩
      · exact absurd ((mem_codes _).mpr ⟨dimension, violated, rfl⟩) List.not_mem_nil
      · simp only [created]
        rfl
  | cons first rest =>
      obtain ⟨dimension, violated, -⟩ := (mem_codes first).mp (List.mem_cons_self ..)
      refine ⟨fun ⟨_, accepted⟩ => ?_, fun noneViolated => absurd violated (noneViolated dimension)⟩
      cases accepted

/-- A rejection reports exactly the violated dimensions. -/
theorem check_eq_error {parent : ParentAuthority sha256} {child : ChildAuthority sha256}
    {failure : MonotonicFailure}
    (rejected : MonotonicAuthorityChecker.check sha256 parent.scope child.constraint =
      .error failure) :
    ∃ violation, failure = .denied violation ∧ ∀ code, code ∈ violation.reasonCodes ↔
      ∃ dimension : AuthorityDimension, dimension.Violated parent child ∧
        code = dimension.code := by
  obtain ⟨codes, collected, mem_codes⟩ := MonotonicAuthorityChecker.violations_eq parent child
  rw [MonotonicAuthorityChecker.check, collected] at rejected
  cases codes with
  | nil =>
      obtain ⟨decision, created⟩ := exists_decision parent child
      simp only [created] at rejected
      cases rejected
  | cons first rest =>
      refine ⟨.ofCodes first rest, (Except.error.inj rejected).symm, fun code => ?_⟩
      rw [MonotonicAuthorityViolation.mem_ofCodes, mem_codes]

/-- A chain of accepted constraints: each next scope has the bindings of the constraint before it.
-/
inductive AcceptedChain (sha256 : String → String) :
    ParentAuthority sha256 → ChildAuthority sha256 → Prop where
  | link {parent : ParentAuthority sha256} {child : ChildAuthority sha256}
      (accepted : Accepts parent child) : AcceptedChain sha256 parent child
  | extend {first next : ParentAuthority sha256} {middle last : ChildAuthority sha256}
      (chain : AcceptedChain sha256 first middle)
      (takesOver : next.scope.toAuthorityBindings = middle.constraint.toAuthorityBindings)
      (accepted : Accepts next last) : AcceptedChain sha256 first last

theorem AcceptedChain.narrows {first : ParentAuthority sha256} {last : ChildAuthority sha256}
    (chain : AcceptedChain sha256 first last) :
    (∀ binding : ExactBinding, binding.of last.constraint.toAuthorityBindings =
      binding.of first.scope.toAuthorityBindings) ∧ last.window ≤ first.window := by
  induction chain with
  | link accepted =>
      have narrows := accepts_iff.mp accepted
      exact ⟨narrows.exact, narrows.within⟩
  | @extend next middle last chain takesOver accepted induction =>
      have narrows := accepts_iff.mp accepted
      have sameWindow : next.window = middle.window := by
        refine AuthorityBindings.Spans.unique next.spans ?_
        rw [takesOver]
        exact middle.spans
      refine ⟨fun binding => ?_, ?_⟩
      · calc binding.of last.constraint.toAuthorityBindings
            = binding.of next.scope.toAuthorityBindings := narrows.exact binding
          _ = binding.of middle.constraint.toAuthorityBindings := by rw [takesOver]
          _ = binding.of first.scope.toAuthorityBindings := induction.1 binding
      · exact Window.le_trans (sameWindow ▸ narrows.within) induction.2

/-- The monotonic check is exact, and what it accepts composes.  Every dimension has its own code.
-/
theorem monotonic_check_exact (sha256 : String → String) :
    (∀ (parent : ParentAuthority sha256) (child : ChildAuthority sha256),
      (Accepts parent child ↔ child.Narrows parent) ∧
      ∀ failure, MonotonicAuthorityChecker.check sha256 parent.scope child.constraint =
          .error failure → ∃ violation, failure = .denied violation ∧
        {code | code ∈ violation.reasonCodes} =
          AuthorityDimension.code '' {dimension | dimension.Violated parent child}) ∧
    Function.Injective AuthorityDimension.code ∧
    ∀ (first : ParentAuthority sha256) (last : ChildAuthority sha256),
      AcceptedChain sha256 first last →
        (∀ binding : ExactBinding, binding.of last.constraint.toAuthorityBindings =
          binding.of first.scope.toAuthorityBindings) ∧ last.window ≤ first.window := by
  refine ⟨fun parent child => ⟨accepts_iff, fun failure rejected => ?_⟩,
    AuthorityDimension.code_injective, fun first last chain => chain.narrows⟩
  obtain ⟨violation, denied, codes⟩ := check_eq_error rejected
  refine ⟨violation, denied, Set.ext fun code => (codes code).trans ?_⟩
  constructor
  · rintro ⟨dimension, violated, rfl⟩
    exact ⟨dimension, violated, rfl⟩
  · rintro ⟨dimension, violated, rfl⟩
    exact ⟨dimension, violated, rfl⟩

end VoodooOne
