import Mathlib.Data.List.Basic

/-!
# Exceptions

A failing call raises an exception of one class with one message.  A handler for a class also
catches its subclasses.
-/

namespace VoodooOne

/-- The exception classes that the modelled code raises or catches. -/
inductive ExceptionClass where
  | valueError
  | typeError
  | lookupError
  | keyError
  | runtimeError
  | overflowError
  | osError
  | permissionError
  | databaseError
  | databaseOperationError
  | databaseIntegrityError
  | databaseMigrationError
  | executionFenceDenied
  | durableExecutionLeaseDenied
  | durableCompletionConflict
  | dispatchInboxContentConflict
  | dispatchInboxPersistenceDenied
  | grantIssuanceDenied
  | grantConsumptionDenied
  | dispatchOutboxPersistenceDenied
  | verificationResultPersistenceConflict
  | verificationResultPersistenceDenied
  | approvalPolicyCompatibilityError
  | controlPlaneRegistryError
  | registryConflict
  | registryIntegrityError
  | authorizationSnapshotConflict
  | authorizationSnapshotSourceError
  | snapshotAuthorizationDenied
  | monotonicAuthorityViolation
  | operationProofError
  | writeRuntimeDenied
  | writeEffectPreflightDenied
  | writeBoundaryDenied
  | writeCredentialDenied
  | canonicalOperationResumeDenied
  | durableCurrentExecutionFenceDenied
  | verificationEvidenceDenied
  | operationProofV2Denied
  | operationCellV1Denied
  | runnerBoundaryDenied
  | controlledWriteDenied
  | adapterError
  | fileNotFoundError
  | fileExistsError
  | recursionError
  | unicodeDecodeError
  | unicodeEncodeError
  | jsonDecodeError
  | gitHubCreateRefDenied
  | gitHubCreateRefTransportAmbiguous
  | verifierCredentialDenied
  | independentVerificationBoundaryDenied
  | dependencySnapshotError
  | controlPlaneDecisionError
  | developmentDecisionError
  | releasePromotionError
  | publicationError
  | requirementLockDriftError
  | failureDrivenEvalError
  | attributeError
deriving DecidableEq, Repr

namespace ExceptionClass

/-- The next superclass among the modelled ones. -/
def parent : ExceptionClass → Option ExceptionClass
  | executionFenceDenied => some permissionError
  | durableExecutionLeaseDenied => some permissionError
  | durableCompletionConflict => some runtimeError
  | dispatchInboxContentConflict => some permissionError
  | dispatchInboxPersistenceDenied => some permissionError
  | grantIssuanceDenied => some permissionError
  | grantConsumptionDenied => some permissionError
  | dispatchOutboxPersistenceDenied => some permissionError
  | verificationResultPersistenceConflict => some runtimeError
  | verificationResultPersistenceDenied => some permissionError
  | approvalPolicyCompatibilityError => some runtimeError
  | controlPlaneRegistryError => some runtimeError
  | registryConflict => some controlPlaneRegistryError
  | registryIntegrityError => some controlPlaneRegistryError
  | authorizationSnapshotConflict => some runtimeError
  | authorizationSnapshotSourceError => some runtimeError
  | snapshotAuthorizationDenied => some permissionError
  | monotonicAuthorityViolation => some permissionError
  | operationProofError => some valueError
  | writeRuntimeDenied => some permissionError
  | writeEffectPreflightDenied => some permissionError
  | writeBoundaryDenied => some permissionError
  | writeCredentialDenied => some permissionError
  | canonicalOperationResumeDenied => some permissionError
  | durableCurrentExecutionFenceDenied => some permissionError
  | verificationEvidenceDenied => some permissionError
  | operationProofV2Denied => some permissionError
  | operationCellV1Denied => some permissionError
  | runnerBoundaryDenied => some permissionError
  | controlledWriteDenied => some permissionError
  | keyError => some lookupError
  | permissionError => some osError
  | adapterError => some runtimeError
  | fileNotFoundError => some osError
  | fileExistsError => some osError
  | recursionError => some runtimeError
  | unicodeDecodeError => some valueError
  | unicodeEncodeError => some valueError
  | jsonDecodeError => some valueError
  | gitHubCreateRefDenied => some permissionError
  | gitHubCreateRefTransportAmbiguous => some runtimeError
  | verifierCredentialDenied => some permissionError
  | independentVerificationBoundaryDenied => some permissionError
  | dependencySnapshotError => some valueError
  | controlPlaneDecisionError => some valueError
  | developmentDecisionError => some valueError
  | releasePromotionError => some valueError
  | publicationError => some runtimeError
  | requirementLockDriftError => some valueError
  | failureDrivenEvalError => some valueError
  | databaseIntegrityError => some databaseOperationError
  | databaseMigrationError => some databaseError
  | databaseOperationError => some databaseError
  | _ => none

/-- Whether an exception of this class is caught by a handler for `handled`. -/
def isA (cls handled : ExceptionClass) : Bool :=
  cls == handled || match cls.parent with
    | none => false
    | some first => first == handled || match first.parent with
      | none => false
      | some second => second == handled

end ExceptionClass

structure Raised where
  cls : ExceptionClass
  /-- Its text, which a denial also keeps as its `reason`. -/
  message : String
deriving DecidableEq, Repr

/-- Raise `error` when the condition holds. -/
def raiseIf (condition : Prop) [Decidable condition] (error : Raised) : Except Raised Unit :=
  if condition then .error error else .ok ()

/-- The value found, or `error` when there is none. -/
def orRaise {α : Type} (error : Raised) : Option α → Except Raised α
  | some value => .ok value
  | none => .error error

/-- A body under an `except` clause: an exception of one of the classes is raised again as
`replacement`. -/
def catching {α : Type} (classes : List ExceptionClass) (replacement : Raised) :
    Except Raised α → Except Raised α
  | .ok value => .ok value
  | .error error => .error (if classes.any error.cls.isA then replacement else error)

/-- A loop whose body may raise. -/
def forEach {α : Type} (body : α → Except Raised Unit) : List α → Except Raised Unit
  | [] => .ok ()
  | item :: items => do
      body item
      forEach body items

@[simp] theorem bind_eq_ok {ε α β : Type} {first : Except ε α} {next : α → Except ε β}
    {result : β} :
    (first >>= next) = .ok result ↔ ∃ value, first = .ok value ∧ next value = .ok result := by
  cases first <;> simp [Bind.bind, Except.bind]

theorem ok_bind {ε α β : Type} (value : α) (next : α → Except ε β) :
    (Except.ok value >>= next) = next value := rfl

@[simp] theorem pure_eq_ok {ε α : Type} {value result : α} :
    (pure value : Except ε α) = .ok result ↔ value = result := by
  simp [Pure.pure, Except.pure]

@[simp] theorem raiseIf_eq_ok {condition : Prop} [Decidable condition] {error : Raised}
    {result : Unit} : raiseIf condition error = .ok result ↔ ¬condition := by
  unfold raiseIf
  split <;> simp_all

theorem raiseIf_of_not {condition : Prop} [Decidable condition] {error : Raised}
    (holds : ¬condition) : raiseIf condition error = .ok () := if_neg holds

@[simp] theorem orRaise_eq_ok {α : Type} {error : Raised} {found : Option α} {value : α} :
    orRaise error found = .ok value ↔ found = some value := by
  cases found <;> simp [orRaise]

@[simp] theorem catching_eq_ok {α : Type} {classes : List ExceptionClass} {replacement : Raised}
    {body : Except Raised α} {value : α} :
    catching classes replacement body = .ok value ↔ body = .ok value := by
  cases body <;> simp [catching]

@[simp] theorem forEach_eq_ok {α : Type} {body : α → Except Raised Unit} {items : List α}
    {result : Unit} : forEach body items = .ok result ↔ ∀ item ∈ items, body item = .ok () := by
  induction items with
  | nil => simp [forEach]
  | cons item items induction =>
      rw [forEach, bind_eq_ok, List.forall_mem_cons, induction]
      exact ⟨fun ⟨_, first, later⟩ => ⟨first, later⟩, fun ⟨first, later⟩ => ⟨(), first, later⟩⟩

theorem mapM_eq_ok {α β : Type} {body : α → Except Raised β} {accepts : α → Prop} {value : α → β}
    (each : ∀ item result, body item = .ok result ↔ accepts item ∧ result = value item)
    {items : List α} {results : List β} : items.mapM body = .ok results ↔
      (∀ item ∈ items, accepts item) ∧ results = items.map value := by
  induction items generalizing results with
  | nil =>
      rw [List.mapM_nil, pure_eq_ok, List.map_nil, eq_comm]
      simp
  | cons item items induction =>
      simp only [List.mapM_cons, bind_eq_ok, each, induction, pure_eq_ok, List.forall_mem_cons,
        List.map_cons]
      constructor
      · rintro ⟨_, ⟨first, rfl⟩, _, ⟨rest, rfl⟩, rfl⟩
        exact ⟨⟨first, rest⟩, rfl⟩
      · rintro ⟨⟨first, rest⟩, rfl⟩
        exact ⟨_, ⟨first, rfl⟩, _, ⟨rest, rfl⟩, rfl⟩

end VoodooOne
