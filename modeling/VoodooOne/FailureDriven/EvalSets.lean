import VoodooOne.Evidence.Chain
import VoodooOne.FailureDriven.EvalForms

/-!
# Eval sets

What a set is created from, and what its document says.  A set is tied to its failure by the digest
that every case carries; the fields that a case copies from its failure are not compared again.
-/

namespace VoodooOne

open Json

namespace GeneratedEvalSet

structure Valid (sha256 : String → String) (set : GeneratedEvalSet) : Prop where
  id : ValidText set.setId
  digests : IsDigest set.parentFailureDigest ∧ IsDigest set.setDigest
  corpus : set.corpusClass = "GENERATED_ADVERSARIAL"
  nonempty : set.cases ≠ []
  ids : (set.cases.map (·.caseId)).Nodup
  caseDigests : (set.cases.map (·.caseDigest)).Nodup
  own : ∀ item ∈ set.cases, item.parentFailureDigest = set.parentFailureDigest ∧
    item.corpusClass = "GENERATED_ADVERSARIAL"
  digest : set.setDigest = digestOf sha256 set.claimsWithoutDigest

def Answers (self : Attributes) (set : GeneratedEvalSet) : Prop :=
  self "set_id" = .str set.setId ∧ self "parent_failure_digest" = .str set.parentFailureDigest ∧
    self "corpus_class" = .str set.corpusClass ∧ self "set_digest" = .str set.setDigest

variable {sha256 repr : String → String} {self : Attributes} {set : GeneratedEvalSet}
  {cases other : List GeneratedEvalCase} {document : Json} {floats : FloatRepr} {setId : String}
  {failure : FailureRecord}

theorem ofAttributes_of_answers (answers : set.Answers self) :
    ofAttributes self set.cases = set := by
  obtain ⟨setId, parent, corpus, digest⟩ := answers
  simp [ofAttributes, Attributes.text, Json.text?, setId, parent, corpus, digest]

theorem requireOwn_eq_ok {parent : String} {item : GeneratedEvalCase} {result : Unit} :
    requireOwn parent item = .ok result ↔
      item.parentFailureDigest = parent ∧ item.corpusClass = "GENERATED_ADVERSARIAL" := by
  simp only [requireOwn, bind_eq_ok, raiseIf_eq_ok, not_not, exists_and_left, exists_const]

theorem construct_eq_ok : construct sha256 self cases = .ok set ↔
    set.Answers self ∧ set.cases = cases ∧ set.Valid sha256 := by
  simp only [construct, bind_eq_ok, asEvalError_eq_ok, AttributeCheck.performAll_eq_ok, checks,
    List.forall_mem_cons, AttributeCheck.Holds, raiseIf_eq_ok, not_not, forEach_eq_ok,
    requireOwn_eq_ok, pure_eq_ok]
  constructor
  · rintro ⟨_, ⟨⟨setId, validId⟩, ⟨parent, -, parentDigest⟩, ⟨digest, -, isDigest⟩,
      ⟨corpus, isCorpus⟩, -⟩, _, nonempty, _, ids, _, digests, _, own, _, same, rfl⟩
    exact ⟨⟨setId, parent, corpus, digest⟩, rfl, ⟨validId, ⟨parentDigest, isDigest⟩, isCorpus,
      nonempty, ids, digests, own, same⟩⟩
  · rintro ⟨answers, rfl, valid⟩
    have same := ofAttributes_of_answers answers
    obtain ⟨setId, parent, corpus, digest⟩ := answers
    refine ⟨(), ⟨⟨?_, ?_⟩, ⟨?_, ?_, ?_⟩, ⟨?_, ?_, ?_⟩, ⟨?_, ?_⟩, List.forall_mem_nil _⟩, (),
      valid.nonempty, (), valid.ids, (), valid.caseDigests, (), ?_, (), ?_, same⟩
    · rw [Attributes.text_of_str setId, setId]
    · rw [Attributes.text_of_str setId]
      exact valid.id
    · rw [Attributes.text_of_str parent, parent]
    · rw [Attributes.text_of_str parent]
      exact validText_of_isDigest valid.digests.1
    · rw [Attributes.text_of_str parent]
      exact valid.digests.1
    · rw [Attributes.text_of_str digest, digest]
    · rw [Attributes.text_of_str digest]
      exact validText_of_isDigest valid.digests.2
    · rw [Attributes.text_of_str digest]
      exact valid.digests.2
    · rw [Attributes.text_of_str corpus, corpus]
    · rw [Attributes.text_of_str corpus]
      exact valid.corpus
    · rw [same]
      exact valid.own
    · rw [same]
      exact valid.digest

theorem names_fields (set : GeneratedEvalSet) : set.fields.map Prod.fst = fieldNames := by
  simp only [fields, claimFields, List.map_cons, List.map_nil, List.cons_append, List.nil_append,
    fieldNames]

theorem fields_nodup (set : GeneratedEvalSet) : (set.fields.map Prod.fst).Nodup := by
  rw [names_fields]
  decide

theorem get_toDict (set : GeneratedEvalSet) (entry : String × Json) (member : entry ∈ set.fields) :
    set.toDict.get entry.1 = entry.2 := by
  have stored := get_object_of_mem set.fields_nodup member
  exact stored

theorem answers_toDict (set : GeneratedEvalSet) : set.Answers set.toDict.get := by
  have stored := set.get_toDict
  simp only [fields, claimFields, List.cons_append, List.nil_append, List.forall_mem_cons] at stored
  obtain ⟨-, -, setId, parent, corpus, -, digest, -⟩ := stored
  exact ⟨setId, parent, corpus, digest⟩

/-- The set that `create` makes of its arguments. -/
def made (sha256 : String → String) (setId : String) (failure : FailureRecord)
    (cases : List GeneratedEvalCase) : GeneratedEvalSet :=
  sealed sha256 ⟨setId, failure.recordDigest, "GENERATED_ADVERSARIAL", canonicalCases cases, ""⟩

theorem create_eq_ok : create sha256 setId failure cases = .ok set ↔
    set = made sha256 setId failure cases ∧ set.Valid sha256 := by
  have own := answers_toDict (made sha256 setId failure cases)
  rw [create, construct_eq_ok]
  constructor
  · rintro ⟨answers, same, valid⟩
    refine ⟨?_, valid⟩
    rw [← ofAttributes_of_answers answers, same]
    exact ofAttributes_of_answers own
  · rintro ⟨rfl, valid⟩
    exact ⟨own, rfl, valid⟩

theorem canonicalCases_perm (cases : List GeneratedEvalCase) :
    (canonicalCases cases).Perm cases := List.perm_insertionSort _ cases

theorem mem_canonicalCases {item : GeneratedEvalCase} :
    item ∈ canonicalCases cases ↔ item ∈ cases := (canonicalCases_perm cases).mem_iff

theorem canonicalCases_eq_of_perm (ids : (cases.map (·.caseId)).Nodup) (perm : cases.Perm other) :
    canonicalCases cases = canonicalCases other :=
  Sorting.insertionSort_eq_of_distinct ids perm

theorem create_perm (perm : cases.Perm other)
    (created : create sha256 setId failure cases = .ok set) :
    create sha256 setId failure other = .ok set := by
  obtain ⟨rfl, valid⟩ := create_eq_ok.mp created
  have ids : (cases.map (·.caseId)).Nodup :=
    ((canonicalCases_perm cases).map _).nodup_iff.mp valid.ids
  refine create_eq_ok.mpr ⟨?_, valid⟩
  rw [made, made, canonicalCases_eq_of_perm ids perm]

/-- What `create` refuses. -/
def Refused (setId : String) (failure : FailureRecord) (cases : List GeneratedEvalCase) : Prop :=
  ¬ValidText setId ∨ cases = [] ∨ ¬(cases.map (·.caseId)).Nodup ∨
    ¬(cases.map (·.caseDigest)).Nodup ∨
    ∃ item ∈ cases, item.parentFailureDigest ≠ failure.recordDigest

theorem made_valid_iff {sha256 : Sha256} (built : failure.Built sha256.hexdigest)
    (valid : ∀ item ∈ cases, item.Valid sha256.hexdigest) :
    (made sha256.hexdigest setId failure cases).Valid sha256.hexdigest ↔
      ¬Refused setId failure cases := by
  have perm := canonicalCases_perm cases
  have recordDigest : IsDigest failure.recordDigest := by
    obtain ⟨self, built⟩ := built
    rw [FailureRecord.construct, asEvalError_eq_ok] at built
    have same : failure.recordDigest = _ := Contract.Built.digest_eq ⟨self, built⟩
    rw [same]
    exact sha256.isDigest _
  simp only [Refused, not_or, not_not, not_exists, not_and]
  constructor
  · intro made
    refine ⟨made.id, ?_, (perm.map _).nodup_iff.mp made.ids,
      (perm.map _).nodup_iff.mp made.caseDigests,
      fun item member => (made.own item (mem_canonicalCases.mpr member)).1⟩
    rintro rfl
    exact made.nonempty rfl
  · rintro ⟨validId, nonempty, ids, digests, own⟩
    refine ⟨validId, ⟨recordDigest, sha256.isDigest _⟩, rfl, ?_, (perm.map _).nodup_iff.mpr ids,
      (perm.map _).nodup_iff.mpr digests, fun item member => ?_, rfl⟩
    · intro none
      have empty : canonicalCases cases = [] := none
      rw [empty] at perm
      exact nonempty perm.nil_eq.symm
    · have listed := mem_canonicalCases.mp member
      exact ⟨own item listed, (valid item listed).corpus⟩

theorem fromDict_eq_ok : fromDict sha256 repr document = .ok set ↔
    requireExactFields document fieldNames "generated-eval-set/v1" = .ok () ∧
    ((document.get "schema_version").equalsInt 1 = true ∧
      document.get "set_type" = .str "generated-eval-set/v1") ∧
    (∃ items, document.get "cases" = .arr items ∧
      items.mapM (GeneratedEvalCase.fromDict sha256 repr) = .ok set.cases) ∧
    set.Answers document.get ∧ set.Valid sha256 := by
  simp only [fromDict, bind_eq_ok, asEvalError_eq_ok, raiseIf_eq_ok, not_or, not_not,
    Bool.not_eq_false]
  constructor
  · rintro ⟨_, exactFields, _, typed, read⟩
    split at read
    · next items isArray =>
      simp only [bind_eq_ok, construct_eq_ok] at read
      obtain ⟨_, found, answers, rfl, valid⟩ := read
      exact ⟨exactFields, typed, ⟨items, isArray, found⟩, answers, valid⟩
    · cases read
  · rintro ⟨exactFields, typed, ⟨items, isArray, found⟩, answers, valid⟩
    refine ⟨(), exactFields, (), typed, ?_⟩
    rw [isArray]
    simp only [bind_eq_ok, construct_eq_ok]
    exact ⟨_, found, answers, rfl, valid⟩

theorem get_cases (set : GeneratedEvalSet) :
    set.toDict.get "cases" = .arr (set.cases.map GeneratedEvalCase.toDict) :=
  set.get_toDict ("cases", .arr (set.cases.map GeneratedEvalCase.toDict))
    (by simp [fields, claimFields])

/-- A set is read back exactly when the inputs of its cases are mappings. -/
theorem Valid.fromDict_toDict_iff (valid : set.Valid sha256)
    (each : ∀ item ∈ set.cases, item.Valid sha256) :
    fromDict sha256 repr set.toDict = .ok set ↔
      ∀ item ∈ set.cases, IsMapping item.inputVariant := by
  constructor
  · intro read
    obtain ⟨-, -, ⟨items, -, found⟩, -⟩ := fromDict_eq_ok.mp read
    exact GeneratedEvalCase.isMapping_of_forall₂ (GeneratedEvalCase.forall₂_of_mapM found)
  · intro mappings
    have version := set.get_toDict ("schema_version", .int 1) (List.mem_cons_self ..)
    have type := set.get_toDict ("set_type", .str "generated-eval-set/v1")
      (List.mem_cons_of_mem _ (List.mem_cons_self ..))
    refine fromDict_eq_ok.mpr ⟨set.names_fields ▸ requireExactFields_object, ⟨?_, type⟩,
      ⟨_, set.get_cases, GeneratedEvalCase.mapM_toDict each mappings⟩, set.answers_toDict, valid⟩
    rw [version]
    rfl

/-- The document states both versions as the integer and lists its cases in the order of their
ids. -/
def CanonicalDocument (document : Json) : Prop :=
  document.get "schema_version" = .int 1 ∧ ∃ items, document.get "cases" = .arr items ∧
    (∀ item ∈ items, item.get "schema_version" = .int 1) ∧
    (items.map GeneratedEvalCase.listedId).Pairwise (· ≤ ·)

theorem canonicalCases_eq_iff : canonicalCases cases = cases ↔
    (cases.map (·.caseId)).Pairwise (· ≤ ·) := by
  rw [List.pairwise_map]
  constructor
  · intro same
    rw [← same]
    exact List.pairwise_insertionSort _ cases
  · exact List.Pairwise.insertionSort_eq

theorem document_iff (wellFormed : document.WellFormed floats)
    (read : fromDict sha256 repr document = .ok set) :
    (canonicalJson document = canonicalJson set.toDict ∧ canonicalCases set.cases = set.cases) ↔
      CanonicalDocument document := by
  obtain ⟨exactFields, ⟨-, type⟩, ⟨items, isArray, found⟩, answers, valid⟩ := fromDict_eq_ok.mp read
  obtain ⟨setId, parent, corpus, digest⟩ := answers
  have each := GeneratedEvalCase.forall₂_of_mapM found
  have itemsWellFormed : ∀ item ∈ items, item.WellFormed floats := by
    have array := wellFormed.get "cases"
    rw [isArray] at array
    cases array with
    | arr _ each => exact each
  have normals := GeneratedEvalCase.map_normal_iff each itemsWellFormed
  have arrays : (Json.arr items).normal = (Json.arr (set.cases.map (·.toDict))).normal ↔
      ∀ item ∈ items, item.get "schema_version" = .int 1 := by
    rw [Json.normal, Json.normal, Json.arr.injEq, normalItems_eq_map, normalItems_eq_map,
      List.map_map]
    exact normals
  have ordered : canonicalCases set.cases = set.cases ↔
      (items.map GeneratedEvalCase.listedId).Pairwise (· ≤ ·) := by
    rw [canonicalCases_eq_iff, GeneratedEvalCase.map_listedId each]
  rw [← set.names_fields] at exactFields
  have written : canonicalJson document = canonicalJson set.toDict ↔
      document.get "schema_version" = .int 1 ∧
        ∀ item ∈ items, item.get "schema_version" = .int 1 := by
    constructor
    · intro same
      have own := answers_of_canonicalJson wellFormed exactFields set.fields_nodup ?_ same
      · simp only [fields, claimFields, List.cons_append, List.nil_append, List.forall_mem_cons]
          at own
        obtain ⟨version, -, -, -, -, listed, -⟩ := own
        rw [isArray] at listed
        exact ⟨normal_eq_int.mp version, arrays.mp listed⟩
      · simp only [fields, claimFields, List.cons_append, List.nil_append, List.forall_mem_cons]
        refine ⟨.int 1 (by decide), .str _, .str _, .str _, .str _, .arr _ fun entry member => ?_,
          .str _, List.forall_mem_nil _⟩
        obtain ⟨item, listed, rfl⟩ := List.mem_map.mp member
        exact GeneratedEvalCase.wellFormed_toDict
          (GeneratedEvalCase.isMapping_of_forall₂ each item listed)
    · rintro ⟨version, versions⟩
      refine canonicalJson_eq_of_answers wellFormed exactFields set.fields_nodup ?_
      simp only [fields, claimFields, List.cons_append, List.nil_append, List.forall_mem_cons]
      refine ⟨by rw [version], by rw [type], by rw [setId], by rw [parent], by rw [corpus], ?_,
        by rw [digest], List.forall_mem_nil _⟩
      rw [isArray]
      exact arrays.mpr versions
  rw [written, ordered, CanonicalDocument]
  constructor
  · rintro ⟨⟨version, versions⟩, ids⟩
    exact ⟨version, items, isArray, versions, ids⟩
  · rintro ⟨version, listed, isListed, versions, ids⟩
    obtain rfl := Json.arr.inj (isArray.symm.trans isListed)
    exact ⟨⟨version, versions⟩, ids⟩

theorem eq_of_perm {left right : GeneratedEvalSet} (leftValid : left.Valid sha256)
    (rightValid : right.Valid sha256) (ids : left.setId = right.setId)
    (perm : left.cases.Perm right.cases) (leftOrder : canonicalCases left.cases = left.cases)
    (rightOrder : canonicalCases right.cases = right.cases) : left = right := by
  have same : left.cases = right.cases := by
    rw [← leftOrder, ← rightOrder]
    exact canonicalCases_eq_of_perm leftValid.ids perm
  have parents : left.parentFailureDigest = right.parentFailureDigest := by
    obtain ⟨item, member⟩ := List.exists_mem_of_ne_nil _ leftValid.nonempty
    rw [← (leftValid.own item member).1, (rightValid.own item (same ▸ member)).1]
  have corpus := leftValid.corpus.trans rightValid.corpus.symm
  have claims : left.claimsWithoutDigest = right.claimsWithoutDigest := by
    simp only [claimsWithoutDigest, claimFields, ids, parents, corpus, same]
  have digests : left.setDigest = right.setDigest := by
    rw [leftValid.digest, rightValid.digest, claims]
  cases left
  cases right
  simp only at ids parents corpus same digests
  rw [ids, parents, corpus, same, digests]

/-- Sets do not depend on the order of the cases that they are created from.  A set is of its
failure and is read back exactly when each case repeats what it claims of its failure and its pairs
are a mapping.  A document that is read is the text of its set, in its order, exactly when it is
canonical, and canonical documents of the same cases have one digest. -/
theorem evalSets_canonical_iff (sha256 : Sha256) (repr : String → String) :
    (∀ setId failure (cases other : List GeneratedEvalCase) set, cases.Perm other →
      (create sha256.hexdigest setId failure cases = .ok set ↔
        create sha256.hexdigest setId failure other = .ok set)) ∧
    (∀ setId (failure : FailureRecord) cases, failure.Built sha256.hexdigest →
      (∀ item ∈ cases, item.Built sha256.hexdigest) →
      ((∀ set, create sha256.hexdigest setId failure cases = .ok set →
        (∀ item ∈ set.cases, item.Derives failure) ∧
          fromDict sha256.hexdigest repr set.toDict = .ok set) ↔
        Refused setId failure cases ∨
          ∀ item ∈ cases, item.Derives failure ∧ IsMapping item.inputVariant)) ∧
    (∀ floats (document : Json) set, document.WellFormed floats →
      fromDict sha256.hexdigest repr document = .ok set →
      ((canonicalJson document = canonicalJson set.toDict ∧ canonicalCases set.cases = set.cases) ↔
        CanonicalDocument document)) ∧
    ∀ floats (leftDocument rightDocument : Json) left right, leftDocument.WellFormed floats →
      rightDocument.WellFormed floats →
      fromDict sha256.hexdigest repr leftDocument = .ok left →
      fromDict sha256.hexdigest repr rightDocument = .ok right →
      CanonicalDocument leftDocument → CanonicalDocument rightDocument →
      left.setId = right.setId → left.cases.Perm right.cases →
      left.setDigest = right.setDigest := by
  refine ⟨?_, ?_, fun floats document set => document_iff, ?_⟩
  · intro setId failure cases other set perm
    exact ⟨create_perm perm, create_perm perm.symm⟩
  · intro setId failure cases built items
    have valid (item : GeneratedEvalCase) (member : item ∈ cases) :=
      GeneratedEvalCase.built_iff.mp (items item member)
    have accepted : (made sha256.hexdigest setId failure cases).Valid sha256.hexdigest ↔
        ¬Refused setId failure cases := made_valid_iff built valid
    constructor
    · intro faithful
      by_cases refused : Refused setId failure cases
      · exact .inl refused
      · have made := accepted.mpr refused
        obtain ⟨derives, read⟩ := faithful _ (create_eq_ok.mpr ⟨rfl, made⟩)
        have mappings := (made.fromDict_toDict_iff fun item member =>
          valid item (mem_canonicalCases.mp member)).mp read
        exact .inr fun item member => ⟨derives item (mem_canonicalCases.mpr member),
          mappings item (mem_canonicalCases.mpr member)⟩
    · intro condition set created
      obtain ⟨rfl, made⟩ := create_eq_ok.mp created
      have each := condition.resolve_left (accepted.mp made)
      refine ⟨fun item member => (each item (mem_canonicalCases.mp member)).1, ?_⟩
      exact (made.fromDict_toDict_iff fun item member =>
        valid item (mem_canonicalCases.mp member)).mpr fun item member =>
          (each item (mem_canonicalCases.mp member)).2
  · intro floats leftDocument rightDocument left right leftWellFormed rightWellFormed leftRead
      rightRead leftCanonical rightCanonical ids perm
    obtain ⟨-, -, -, -, leftValid⟩ := fromDict_eq_ok.mp leftRead
    obtain ⟨-, -, -, -, rightValid⟩ := fromDict_eq_ok.mp rightRead
    have leftOrder := ((document_iff leftWellFormed leftRead).mpr leftCanonical).2
    have rightOrder := ((document_iff rightWellFormed rightRead).mpr rightCanonical).2
    rw [eq_of_perm leftValid rightValid ids perm leftOrder rightOrder]

end GeneratedEvalSet

namespace ForeignCase

def failureDraft : FailureRecord :=
  ⟨"failure-1", "publish", "BOUNDARY", "no replay", "second effect", "TEST", "suite",
    repeatedDigit '2', ""⟩

def failure (sha256 : Sha256) : FailureRecord :=
  FailureRecord.contract.withDigest failureDraft
    (digestOf sha256.hexdigest (FailureRecord.contract.claimsWithoutDigest failureDraft))

/-- A case of the failure that names another operation. -/
def case (sha256 : Sha256) : GeneratedEvalCase :=
  .sealed sha256.hexdigest { GeneratedEvalCase.draft "case-1" (failure sha256) [("input", "value")]
    "DETERMINISTIC" "DETERMINISTIC" "reviewer" (repeatedDigit '2') "GENERATED_ADVERSARIAL" with
    operationId := "rollback" }

variable (sha256 : Sha256)

theorem failure_built : (failure sha256).Built sha256.hexdigest := by
  have created : FailureRecord.contract.create sha256.hexdigest failureDraft =
      .ok (failure sha256) := by
    refine Contract.create_of_holds FailureRecord.lawful failureDraft _ rfl
      (fun self reads => ?_) rfl
    have own := sha256.passes
      (canonicalJson (FailureRecord.contract.claimsWithoutDigest failureDraft))
    have source : IsDigest (repeatedDigit '2') := isDigest_repeatedDigit (by decide)
    simp only [FailureRecord.contract, Contract.fieldsWith, Contract.claimFields,
      List.cons_append, List.nil_append, List.forall_mem_cons] at reads
    simp only [FailureRecord.contract, requireTexts, requireDigests, List.map_cons, List.map_nil,
      List.cons_append, List.nil_append, List.forall_mem_cons, AttributeCheck.Holds,
      Attributes.text, Json.text?, reads, Option.getD_some, true_and]
    exact ⟨by decide, by decide, by decide, by decide, by decide, by decide, by decide,
      ⟨validText_of_isDigest source, source⟩, own, List.forall_mem_nil _⟩
  exact ⟨_, asEvalError_eq_ok.mpr created⟩

theorem case_built : (case sha256).Built sha256.hexdigest := by
  have source : IsDigest (repeatedDigit '2') := isDigest_repeatedDigit (by decide)
  have texts : ∀ text ∈ ["case-1", "rollback", "BOUNDARY", "no replay", "second effect",
      "reviewer"], ValidText text := by decide
  refine GeneratedEvalCase.built_iff.mpr ⟨texts, ?_, rfl, List.mem_cons_self, List.mem_cons_self,
    rfl, rfl, List.cons_ne_nil _ _, (List.pairwise_singleton _ _).insertionSort_eq, rfl⟩
  simp only [List.forall_mem_cons]
  exact ⟨sha256.isDigest _, source, sha256.isDigest _, List.forall_mem_nil _⟩

/-- A set of the failure is created from the case. -/
theorem accepted : ¬∃ sha256 : Sha256, ∀ (setId : String) (failure : FailureRecord) cases set,
    failure.Built sha256.hexdigest → (∀ item ∈ cases, item.Built sha256.hexdigest) →
    GeneratedEvalSet.create sha256.hexdigest setId failure cases = .ok set →
    ∀ item ∈ set.cases, item.Derives failure := by
  rintro ⟨sha256, faithful⟩
  have items : ∀ item ∈ [case sha256], item.Built sha256.hexdigest := by
    intro item member
    rw [List.mem_singleton.mp member]
    exact case_built sha256
  have refused : ¬GeneratedEvalSet.Refused "set-1" (failure sha256) [case sha256] := by
    rintro (invalid | empty | repeated | repeated | ⟨item, member, foreign⟩)
    · exact invalid (by decide)
    · cases empty
    · exact repeated (List.nodup_singleton _)
    · exact repeated (List.nodup_singleton _)
    · rw [List.mem_singleton.mp member] at foreign
      exact foreign rfl
  have made := (GeneratedEvalSet.made_valid_iff (failure_built sha256) fun item member =>
    GeneratedEvalCase.built_iff.mp (items item member)).mpr refused
  have derives := faithful "set-1" (failure sha256) [case sha256] _ (failure_built sha256) items
    (GeneratedEvalSet.create_eq_ok.mpr ⟨rfl, made⟩) (case sha256)
    (GeneratedEvalSet.mem_canonicalCases.mpr List.mem_cons_self)
  have same : "rollback" = "publish" := derives.1
  exact absurd same (by decide)

end ForeignCase

end VoodooOne
