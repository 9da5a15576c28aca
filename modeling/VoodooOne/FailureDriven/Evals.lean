import VoodooOne.Foundation.Contract
import VoodooOne.Library.Sorting
import VoodooOne.Library.Table

/-!
# Failure-driven evals

A failure record seeds eval cases, and cases of one failure are collected in a set.  Each of the
three holds a digest of its other fields.
-/

namespace VoodooOne

/-- `FailureDrivenEvalError`. -/
def evalError (message : String) : Raised := ⟨.failureDrivenEvalError, message⟩

/-- A check of the shared primitives, which this module repeats with its own error class. -/
def asEvalError {α : Type} (body : Except Raised α) : Except Raised α :=
  body.mapError fun error => evalError error.message

@[simp] theorem asEvalError_eq_ok {α : Type} {body : Except Raised α} {value : α} :
    asEvalError body = .ok value ↔ body = .ok value := by
  cases body <;> simp [asEvalError, Except.mapError]

structure FailureRecord where
  (failureId operationId classification invariant failureProperty sourceKind sourceIdentity
    sourceEvidenceDigest recordDigest : String)
deriving DecidableEq, Repr

namespace FailureRecord

/-- `failure-record/v1`. -/
def contract : Contract FailureRecord where
  contractType := "failure-record/v1"
  typeField := "record_type"
  digestField := "record_digest"
  mismatch := "record_digest does not match failure record"
  attributes := ["failure_id", "operation_id", "classification", "invariant", "failure_property",
    "source_kind", "source_identity", "source_evidence_digest"].map fun field => (field, .text)
  checks := requireTexts ["failure_id", "operation_id", "classification", "invariant",
      "failure_property", "source_kind", "source_identity"] ++
    requireDigests ["source_evidence_digest", "record_digest"]
  ofAttributes self := {
    failureId := self.text "failure_id"
    operationId := self.text "operation_id"
    classification := self.text "classification"
    invariant := self.text "invariant"
    failureProperty := self.text "failure_property"
    sourceKind := self.text "source_kind"
    sourceIdentity := self.text "source_identity"
    sourceEvidenceDigest := self.text "source_evidence_digest"
    recordDigest := self.text "record_digest" }
  claims record :=
    [("failure_id", .str record.failureId), ("operation_id", .str record.operationId),
      ("classification", .str record.classification), ("invariant", .str record.invariant),
      ("failure_property", .str record.failureProperty), ("source_kind", .str record.sourceKind),
      ("source_identity", .str record.sourceIdentity),
      ("source_evidence_digest", .str record.sourceEvidenceDigest)]
  digest record := record.recordDigest
  withDigest record digest := { record with recordDigest := digest }
  check _ _ := .ok ()

def construct (sha256 : String → String) (self : Attributes) : Except Raised FailureRecord :=
  asEvalError (contract.construct sha256 self)

/-- `create`, from a record whose digest is not looked at. -/
def create (sha256 : String → String) (draft : FailureRecord) : Except Raised FailureRecord :=
  asEvalError (contract.create sha256 draft)

def fromDict (sha256 : String → String) (value : Json) : Except Raised FailureRecord :=
  asEvalError (contract.fromDict sha256 value)

def toDict (record : FailureRecord) : Json := contract.toDict record

def Built (sha256 : String → String) (record : FailureRecord) : Prop :=
  ∃ self, construct sha256 self = .ok record

end FailureRecord

def pairKey (pair : String × String) : List String := [pair.1, pair.2]

/-- `tuple(sorted(pairs))`. -/
def sortedPairs (pairs : List (String × String)) : List (String × String) :=
  pairs.insertionSort fun left right => pairKey left ≤ pairKey right

/-- `dict(pairs)`: a later pair replaces the value of an earlier one. -/
def dictOf (pairs : List (String × String)) : List (String × Json) :=
  (pairs.foldl (Table.upsert Prod.fst) []).map fun pair => (pair.1, .str pair.2)

/-- One item of a mapping of texts; `repr` is the one of a text. -/
def requirePair (repr : String → String) (field : String) (entry : String × Json) :
    Except Raised (String × String) := do
  let key ← asEvalError (requireText (.str entry.1) (field ++ " key"))
  let item ← asEvalError (requireText entry.2 (field ++ "[" ++ repr key ++ "]"))
  return (key, item)

def canonicalStringMapping (repr : String → String) (value : Json) (field : String) :
    Except Raised (List (String × String)) :=
  match value with
  | .obj (first :: rest) => do
      let pairs ← (first :: rest).mapM (requirePair repr field)
      raiseIf (¬((sortedPairs pairs).map Prod.fst).Nodup)
        (evalError (field ++ " keys must be unique"))
      return sortedPairs pairs
  | _ => .error (evalError (field ++ " must be a non-empty object"))

def evalCorpusClasses : List String :=
  ["DEVELOPMENT", "GENERATED_ADVERSARIAL", "FROZEN", "POST_FREEZE_SHADOW"]

/-- Membership in a tuple of texts. -/
def requireMember (allowed : List String) (message : String) (value : Json) : Except Raised Unit :=
  raiseIf (∀ text ∈ allowed, value ≠ .str text) (valueError message)

/-- The two checks of `corpus_class`. -/
def requireCorpusClass (value : Json) : Except Raised Unit := do
  requireMember evalCorpusClasses "corpus_class is unsupported" value
  raiseIf (value ≠ .str "GENERATED_ADVERSARIAL")
    (valueError "failure-derived cases may only enter GENERATED_ADVERSARIAL")

structure GeneratedEvalCase where
  (caseId parentFailureDigest operationId classification invariant failureProperty
    corpusClass : String)
  inputVariant : List (String × String)
  (generatorKind validationKind validationStatus validatorIdentity validatorEvidenceDigest
    evidenceStrength caseDigest : String)
deriving DecidableEq, Repr

namespace GeneratedEvalCase

def textFields (item : GeneratedEvalCase) : List (String × String) :=
  [("case_id", item.caseId), ("parent_failure_digest", item.parentFailureDigest),
    ("operation_id", item.operationId), ("classification", item.classification),
    ("invariant", item.invariant), ("failure_property", item.failureProperty),
    ("corpus_class", item.corpusClass), ("generator_kind", item.generatorKind),
    ("validation_kind", item.validationKind), ("validation_status", item.validationStatus),
    ("validator_identity", item.validatorIdentity),
    ("validator_evidence_digest", item.validatorEvidenceDigest),
    ("evidence_strength", item.evidenceStrength)]

def claimFields (item : GeneratedEvalCase) : List (String × Json) :=
  ("schema_version", .int 1) :: ("case_type", .str "generated-eval-case/v1") ::
    ("input_variant", .object (dictOf item.inputVariant)) ::
    item.textFields.map fun field => (field.1, .str field.2)

def claimsWithoutDigest (item : GeneratedEvalCase) : Json := .object item.claimFields

def fields (item : GeneratedEvalCase) : List (String × Json) :=
  item.claimFields ++ [("case_digest", .str item.caseDigest)]

def toDict (item : GeneratedEvalCase) : Json := .object item.fields

/-- The checks of single attributes, in order. -/
def checks : List AttributeCheck :=
  requireTexts ["case_id", "operation_id", "classification", "invariant", "failure_property",
      "validator_identity"] ++
    requireDigests ["parent_failure_digest", "validator_evidence_digest", "case_digest"] ++
    [.satisfies "corpus_class" requireCorpusClass,
      .satisfies "generator_kind"
        (requireMember ["DETERMINISTIC", "LLM_CANDIDATE"] "generator_kind is unsupported"),
      .satisfies "validation_kind"
        (requireMember ["DETERMINISTIC", "HUMAN_REVIEW"] "validation_kind is unsupported"),
      .equals "validation_status" "VALIDATED" "generated eval candidates must be validated",
      .equals "evidence_strength" "COVERAGE_ONLY"
        "synthetic eval evidence must remain COVERAGE_ONLY"]

def ofAttributes (self : Attributes) (pairs : List (String × String)) : GeneratedEvalCase where
  caseId := self.text "case_id"
  parentFailureDigest := self.text "parent_failure_digest"
  operationId := self.text "operation_id"
  classification := self.text "classification"
  invariant := self.text "invariant"
  failureProperty := self.text "failure_property"
  corpusClass := self.text "corpus_class"
  inputVariant := pairs
  generatorKind := self.text "generator_kind"
  validationKind := self.text "validation_kind"
  validationStatus := self.text "validation_status"
  validatorIdentity := self.text "validator_identity"
  validatorEvidenceDigest := self.text "validator_evidence_digest"
  evidenceStrength := self.text "evidence_strength"
  caseDigest := self.text "case_digest"

def construct (sha256 : String → String) (self : Attributes) (pairs : List (String × String)) :
    Except Raised GeneratedEvalCase := do
  asEvalError (AttributeCheck.performAll self checks)
  raiseIf (pairs = []) (evalError "input_variant must not be empty")
  raiseIf (sortedPairs pairs ≠ pairs) (evalError "input_variant must be canonical and sorted")
  raiseIf ((ofAttributes self pairs).caseDigest ≠
      digestOf sha256 (ofAttributes self pairs).claimsWithoutDigest)
    (evalError "case_digest does not match generated eval case")
  return ofAttributes self pairs

/-- The case that `create` makes of its arguments, without its digest. -/
def draft (caseId : String) (failure : FailureRecord) (pairs : List (String × String))
    (generatorKind validationKind validatorIdentity validatorEvidenceDigest corpusClass : String) :
    GeneratedEvalCase where
  caseId := caseId
  parentFailureDigest := failure.recordDigest
  operationId := failure.operationId
  classification := failure.classification
  invariant := failure.invariant
  failureProperty := failure.failureProperty
  corpusClass := corpusClass
  inputVariant := pairs
  generatorKind := generatorKind
  validationKind := validationKind
  validationStatus := "VALIDATED"
  validatorIdentity := validatorIdentity
  validatorEvidenceDigest := validatorEvidenceDigest
  evidenceStrength := "COVERAGE_ONLY"
  caseDigest := ""

def sealed (sha256 : String → String) (item : GeneratedEvalCase) : GeneratedEvalCase :=
  { item with caseDigest := digestOf sha256 item.claimsWithoutDigest }

def create (sha256 : String → String) (repr : String → String) (caseId : String)
    (failure : FailureRecord) (inputVariant : Json)
    (generatorKind validationKind validatorIdentity validatorEvidenceDigest corpusClass : String) :
    Except Raised GeneratedEvalCase := do
  let pairs ← canonicalStringMapping repr inputVariant "input_variant"
  let item := sealed sha256 (draft caseId failure pairs generatorKind validationKind
    validatorIdentity validatorEvidenceDigest corpusClass)
  construct sha256 item.toDict.get pairs

def fieldNames : List String :=
  ["schema_version", "case_type", "input_variant", "case_id", "parent_failure_digest",
    "operation_id", "classification", "invariant", "failure_property", "corpus_class",
    "generator_kind", "validation_kind", "validation_status", "validator_identity",
    "validator_evidence_digest", "evidence_strength", "case_digest"]

def fromDict (sha256 : String → String) (repr : String → String) (value : Json) :
    Except Raised GeneratedEvalCase := do
  asEvalError (requireExactFields value fieldNames "generated-eval-case/v1")
  raiseIf ((value.get "schema_version").equalsInt 1 = false ∨
      value.get "case_type" ≠ .str "generated-eval-case/v1")
    (evalError "generated-eval-case/v1 schema or type is unsupported")
  let pairs ← canonicalStringMapping repr (value.get "input_variant") "input_variant"
  construct sha256 value.get pairs

end GeneratedEvalCase

structure GeneratedEvalSet where
  (setId parentFailureDigest corpusClass : String)
  cases : List GeneratedEvalCase
  setDigest : String
deriving DecidableEq, Repr

namespace GeneratedEvalSet

def claimFields (set : GeneratedEvalSet) : List (String × Json) :=
  [("schema_version", .int 1), ("set_type", .str "generated-eval-set/v1"),
    ("set_id", .str set.setId), ("parent_failure_digest", .str set.parentFailureDigest),
    ("corpus_class", .str set.corpusClass),
    ("cases", .arr (set.cases.map GeneratedEvalCase.toDict))]

def claimsWithoutDigest (set : GeneratedEvalSet) : Json := .object set.claimFields

def fields (set : GeneratedEvalSet) : List (String × Json) :=
  set.claimFields ++ [("set_digest", .str set.setDigest)]

def toDict (set : GeneratedEvalSet) : Json := .object set.fields

/-- The checks of single attributes, in order. -/
def checks : List AttributeCheck :=
  [.text "set_id", .digest "parent_failure_digest", .digest "set_digest",
    .equals "corpus_class" "GENERATED_ADVERSARIAL"
      "generated eval set must remain GENERATED_ADVERSARIAL"]

def requireOwn (parentFailureDigest : String) (item : GeneratedEvalCase) : Except Raised Unit := do
  raiseIf (item.parentFailureDigest ≠ parentFailureDigest)
    (evalError "generated eval case belongs to another failure")
  raiseIf (item.corpusClass ≠ "GENERATED_ADVERSARIAL")
    (evalError "generated eval case corpus contamination detected")

def ofAttributes (self : Attributes) (cases : List GeneratedEvalCase) : GeneratedEvalSet where
  setId := self.text "set_id"
  parentFailureDigest := self.text "parent_failure_digest"
  corpusClass := self.text "corpus_class"
  cases := cases
  setDigest := self.text "set_digest"

def construct (sha256 : String → String) (self : Attributes) (cases : List GeneratedEvalCase) :
    Except Raised GeneratedEvalSet := do
  asEvalError (AttributeCheck.performAll self checks)
  raiseIf (cases = []) (evalError "generated eval set requires at least one case")
  raiseIf (¬(cases.map (·.caseId)).Nodup) (evalError "generated eval case ids must be unique")
  raiseIf (¬(cases.map (·.caseDigest)).Nodup)
    (evalError "generated eval case digests must be unique")
  forEach (requireOwn (ofAttributes self cases).parentFailureDigest) cases
  raiseIf ((ofAttributes self cases).setDigest ≠
      digestOf sha256 (ofAttributes self cases).claimsWithoutDigest)
    (evalError "set_digest does not match generated eval set")
  return ofAttributes self cases

/-- `tuple(sorted(cases, key=lambda item: item.case_id))`. -/
def canonicalCases (cases : List GeneratedEvalCase) : List GeneratedEvalCase :=
  cases.insertionSort fun left right => left.caseId ≤ right.caseId

def sealed (sha256 : String → String) (set : GeneratedEvalSet) : GeneratedEvalSet :=
  { set with setDigest := digestOf sha256 set.claimsWithoutDigest }

def create (sha256 : String → String) (setId : String) (failure : FailureRecord)
    (cases : List GeneratedEvalCase) : Except Raised GeneratedEvalSet :=
  construct sha256 (sealed sha256 ⟨setId, failure.recordDigest, "GENERATED_ADVERSARIAL",
    canonicalCases cases, ""⟩).toDict.get (canonicalCases cases)

def fieldNames : List String :=
  ["schema_version", "set_type", "set_id", "parent_failure_digest", "corpus_class", "cases",
    "set_digest"]

def fromDict (sha256 : String → String) (repr : String → String) (value : Json) :
    Except Raised GeneratedEvalSet := do
  asEvalError (requireExactFields value fieldNames "generated-eval-set/v1")
  raiseIf ((value.get "schema_version").equalsInt 1 = false ∨
      value.get "set_type" ≠ .str "generated-eval-set/v1")
    (evalError "generated-eval-set/v1 schema or type is unsupported")
  match value.get "cases" with
  | .arr items => do
      let cases ← items.mapM (GeneratedEvalCase.fromDict sha256 repr)
      construct sha256 value.get cases
  | _ => .error (evalError "generated eval cases must be an array")

end GeneratedEvalSet

end VoodooOne
