import VoodooOne.FailureDriven.Evals
import VoodooOne.Foundation.StoredForm

/-!
# Forms of eval sets

A set is made of cases in the order of their ids, whatever order they are given in.  Its document is
read back, and another document of it states a version that is only equal to 1, or lists its cases
in another order.
-/

namespace VoodooOne

open Json

def IsMapping (pairs : List (String × String)) : Prop :=
  (pairs.map Prod.fst).Nodup ∧ ∀ pair ∈ pairs, ValidText pair.1 ∧ ValidText pair.2

theorem pairKey_injective : Function.Injective pairKey := by
  rintro ⟨leftKey, left⟩ ⟨rightKey, right⟩ same
  simpa [pairKey] using same

theorem sortedPairs_perm (pairs : List (String × String)) : (sortedPairs pairs).Perm pairs :=
  List.perm_insertionSort _ pairs

theorem foldl_upsert_of_fresh {pairs table : List (String × String)}
    (fresh : (table.map Prod.fst ++ pairs.map Prod.fst).Nodup) :
    pairs.foldl (Table.upsert Prod.fst) table = table ++ pairs := by
  induction pairs generalizing table with
  | nil => rw [List.foldl_nil, List.append_nil]
  | cons pair pairs induction =>
      have absent : ∀ row ∈ table, row.1 ≠ pair.1 := fun row member same =>
        List.disjoint_of_nodup_append fresh (same ▸ List.mem_map_of_mem member)
          List.mem_cons_self
      have appended : Table.upsert Prod.fst table pair = table ++ [pair] := by
        rw [Table.upsert, Table.lookup_eq_none.mpr absent]
      rw [List.foldl_cons, appended, induction, List.append_assoc, List.singleton_append]
      rwa [List.map_append, List.append_assoc]

/-- The items of a mapping, as they are stored. -/
def storedPairs (pairs : List (String × String)) : List (String × Json) :=
  pairs.map fun pair => (pair.1, .str pair.2)

theorem dictOf_of_nodup {pairs : List (String × String)} (distinct : (pairs.map Prod.fst).Nodup) :
    dictOf pairs = storedPairs pairs := by
  rw [dictOf, foldl_upsert_of_fresh (by simpa using distinct), List.nil_append, storedPairs]

variable {repr : String → String} {value : Json} {field : String} {pairs : List (String × String)}

theorem requirePair_eq_ok {entry : String × Json} {pair : String × String} :
    requirePair repr field entry = .ok pair ↔
      entry = (pair.1, .str pair.2) ∧ ValidText pair.1 ∧ ValidText pair.2 := by
  simp only [requirePair, bind_eq_ok, asEvalError_eq_ok, requireText_eq_ok, pure_eq_ok,
    Json.str.injEq]
  constructor
  · rintro ⟨_, ⟨rfl, key⟩, _, ⟨same, item⟩, rfl⟩
    exact ⟨Prod.ext rfl same, key, item⟩
  · rintro ⟨rfl, key, item⟩
    exact ⟨_, ⟨rfl, key⟩, _, ⟨rfl, item⟩, rfl⟩

theorem mapM_requirePair_eq_ok {entries : List (String × Json)} :
    entries.mapM (requirePair repr field) = .ok pairs ↔
      entries = storedPairs pairs ∧ ∀ pair ∈ pairs, ValidText pair.1 ∧ ValidText pair.2 := by
  induction entries generalizing pairs with
  | nil =>
      rw [List.mapM_nil, pure_eq_ok]
      constructor
      · rintro rfl
        exact ⟨rfl, fun _ absent => absurd absent List.not_mem_nil⟩
      · rintro ⟨same, -⟩
        exact (List.map_eq_nil_iff.mp same.symm).symm
  | cons entry entries induction =>
      simp only [List.mapM_cons, bind_eq_ok, requirePair_eq_ok, induction, pure_eq_ok]
      constructor
      · rintro ⟨pair, ⟨rfl, own⟩, pairs, ⟨rfl, rest⟩, rfl⟩
        exact ⟨rfl, List.forall_mem_cons.mpr ⟨own, rest⟩⟩
      · rintro ⟨same, all⟩
        cases pairs with
        | nil => cases same
        | cons pair pairs =>
            obtain ⟨own, rest⟩ := List.forall_mem_cons.mp all
            obtain ⟨head, tail⟩ := List.cons.inj same
            exact ⟨pair, ⟨head, own⟩, pairs, ⟨tail, rest⟩, rfl⟩

theorem canonicalStringMapping_eq_ok :
    canonicalStringMapping repr value field = .ok pairs ↔ ∃ supplied, supplied ≠ [] ∧
      value = .obj (storedPairs supplied) ∧ pairs = sortedPairs supplied ∧ IsMapping supplied := by
  have distinct (supplied : List (String × String)) :
      ((sortedPairs supplied).map Prod.fst).Nodup ↔ (supplied.map Prod.fst).Nodup :=
    ((sortedPairs_perm supplied).map Prod.fst).nodup_iff
  constructor
  · intro read
    unfold canonicalStringMapping at read
    split at read
    · next first rest =>
      simp only [bind_eq_ok, mapM_requirePair_eq_ok, raiseIf_eq_ok, not_not, pure_eq_ok] at read
      obtain ⟨supplied, ⟨same, all⟩, _, nodup, rfl⟩ := read
      refine ⟨supplied, ?_, by rw [same], rfl, (distinct supplied).mp nodup, all⟩
      rintro rfl
      cases same
    · cases read
  · rintro ⟨supplied, nonempty, rfl, rfl, nodup, all⟩
    cases supplied with
    | nil => exact absurd rfl nonempty
    | cons pair supplied =>
        simp only [storedPairs, List.map_cons, canonicalStringMapping, bind_eq_ok,
          mapM_requirePair_eq_ok, raiseIf_eq_ok, not_not, pure_eq_ok]
        exact ⟨pair :: supplied, ⟨rfl, all⟩, (), (distinct _).mpr nodup, rfl⟩

theorem IsMapping.sorted {pairs : List (String × String)} (mapping : IsMapping pairs) :
    IsMapping (sortedPairs pairs) :=
  ⟨((sortedPairs_perm pairs).map Prod.fst).nodup_iff.mpr mapping.1,
    fun pair member => mapping.2 pair ((sortedPairs_perm pairs).mem_iff.mp member)⟩

theorem FailureRecord.lawful : contract.Lawful where
  ofAttributes_eq self record digest same := by
    simp only [contract, List.cons_append, List.nil_append, List.forall_mem_cons] at same
    simp [contract, Attributes.text, Json.text?, same]

theorem requireMember_eq_ok {allowed : List String} {message : String} {result : Unit} :
    requireMember allowed message value = .ok result ↔ ∃ text ∈ allowed, value = .str text := by
  simp [requireMember]

theorem requireCorpusClass_eq_ok {result : Unit} :
    requireCorpusClass value = .ok result ↔ value = .str "GENERATED_ADVERSARIAL" := by
  simp only [requireCorpusClass, bind_eq_ok, requireMember_eq_ok, raiseIf_eq_ok, not_not]
  constructor
  · rintro ⟨_, -, same⟩
    exact same
  · intro same
    exact ⟨(), ⟨_, by decide, same⟩, same⟩

namespace GeneratedEvalCase

structure Valid (sha256 : String → String) (item : GeneratedEvalCase) : Prop where
  texts : ∀ text ∈ [item.caseId, item.operationId, item.classification, item.invariant,
    item.failureProperty, item.validatorIdentity], ValidText text
  digests : ∀ text ∈ [item.parentFailureDigest, item.validatorEvidenceDigest, item.caseDigest],
    IsDigest text
  corpus : item.corpusClass = "GENERATED_ADVERSARIAL"
  generator : item.generatorKind ∈ ["DETERMINISTIC", "LLM_CANDIDATE"]
  validation : item.validationKind ∈ ["DETERMINISTIC", "HUMAN_REVIEW"]
  status : item.validationStatus = "VALIDATED"
  strength : item.evidenceStrength = "COVERAGE_ONLY"
  nonempty : item.inputVariant ≠ []
  sorted : sortedPairs item.inputVariant = item.inputVariant
  digest : item.caseDigest = digestOf sha256 item.claimsWithoutDigest

/-- The case has the failure's operation, classification, invariant and property. -/
def Derives (item : GeneratedEvalCase) (failure : FailureRecord) : Prop :=
  item.operationId = failure.operationId ∧ item.classification = failure.classification ∧
    item.invariant = failure.invariant ∧ item.failureProperty = failure.failureProperty

variable {sha256 : String → String} {self : Attributes} {item : GeneratedEvalCase}
  {floats : FloatRepr}

def Answers (self : Attributes) (item : GeneratedEvalCase) : Prop :=
  ∀ field ∈ item.textFields ++ [("case_digest", item.caseDigest)], self field.1 = .str field.2

theorem ofAttributes_of_answers (answers : item.Answers self) :
    ofAttributes self item.inputVariant = item := by
  simp only [Answers, textFields, List.cons_append, List.nil_append, List.forall_mem_cons]
    at answers
  simp [ofAttributes, Attributes.text, Json.text?, answers]

theorem performAll_checks (pairs : List (String × String)) {result : Unit} :
    AttributeCheck.performAll self checks = .ok result ↔ (ofAttributes self pairs).Answers self ∧
      (∀ text ∈ [(ofAttributes self pairs).caseId, (ofAttributes self pairs).operationId,
        (ofAttributes self pairs).classification, (ofAttributes self pairs).invariant,
        (ofAttributes self pairs).failureProperty, (ofAttributes self pairs).validatorIdentity],
        ValidText text) ∧
      (∀ text ∈ [(ofAttributes self pairs).parentFailureDigest,
        (ofAttributes self pairs).validatorEvidenceDigest, (ofAttributes self pairs).caseDigest],
        IsDigest text) ∧
      (ofAttributes self pairs).corpusClass = "GENERATED_ADVERSARIAL" ∧
      (ofAttributes self pairs).generatorKind ∈ ["DETERMINISTIC", "LLM_CANDIDATE"] ∧
      (ofAttributes self pairs).validationKind ∈ ["DETERMINISTIC", "HUMAN_REVIEW"] ∧
      (ofAttributes self pairs).validationStatus = "VALIDATED" ∧
      (ofAttributes self pairs).evidenceStrength = "COVERAGE_ONLY" := by
  have member {field : String} {allowed : List String} :
      (∃ text ∈ allowed, self field = .str text) ↔
        self field = .str (self.text field) ∧ self.text field ∈ allowed := by
    constructor
    · rintro ⟨text, listed, same⟩
      rw [Attributes.text_of_str same]
      exact ⟨same, listed⟩
    · rintro ⟨same, listed⟩
      exact ⟨_, listed, same⟩
  have corpus : self "corpus_class" = .str "GENERATED_ADVERSARIAL" ↔
      self "corpus_class" = .str (self.text "corpus_class") ∧
        self.text "corpus_class" = "GENERATED_ADVERSARIAL" := by
    constructor
    · intro same
      rw [Attributes.text_of_str same]
      exact ⟨same, rfl⟩
    · rintro ⟨same, own⟩
      rwa [own] at same
  rw [AttributeCheck.performAll_eq_ok]
  simp only [checks, requireTexts, requireDigests, List.map_cons, List.map_nil, List.cons_append,
    List.nil_append, List.forall_mem_cons, AttributeCheck.Holds, requireCorpusClass_eq_ok,
    requireMember_eq_ok, member, corpus, Answers, textFields, ofAttributes, List.not_mem_nil,
    false_imp_iff, implies_true, and_true]
  constructor
  · rintro ⟨⟨caseId, validId⟩, ⟨operation, validOperation⟩, ⟨classification, validClass⟩,
      ⟨invariant, validInvariant⟩, ⟨property, validProperty⟩, ⟨validator, validValidator⟩,
      ⟨parent, -, parentDigest⟩, ⟨evidence, -, evidenceDigest⟩, ⟨digest, -, isDigest⟩,
      ⟨corpusSame, isCorpus⟩, ⟨generator, isGenerator⟩, ⟨validation, isValidation⟩,
      ⟨status, isStatus⟩, strength, isStrength⟩
    exact ⟨⟨caseId, parent, operation, classification, invariant, property, corpusSame, generator,
      validation, status, validator, evidence, strength, digest⟩, ⟨validId, validOperation,
      validClass, validInvariant, validProperty, validValidator⟩, ⟨parentDigest, evidenceDigest,
      isDigest⟩, isCorpus, isGenerator, isValidation, isStatus, isStrength⟩
  · rintro ⟨⟨caseId, parent, operation, classification, invariant, property, corpusSame, generator,
      validation, status, validator, evidence, strength, digest⟩, ⟨validId, validOperation,
      validClass, validInvariant, validProperty, validValidator⟩, ⟨parentDigest, evidenceDigest,
      isDigest⟩, isCorpus, isGenerator, isValidation, isStatus, isStrength⟩
    exact ⟨⟨caseId, validId⟩, ⟨operation, validOperation⟩, ⟨classification, validClass⟩,
      ⟨invariant, validInvariant⟩, ⟨property, validProperty⟩, ⟨validator, validValidator⟩,
      ⟨parent, validText_of_isDigest parentDigest, parentDigest⟩,
      ⟨evidence, validText_of_isDigest evidenceDigest, evidenceDigest⟩,
      ⟨digest, validText_of_isDigest isDigest, isDigest⟩,
      ⟨corpusSame, isCorpus⟩, ⟨generator, isGenerator⟩, ⟨validation, isValidation⟩,
      ⟨status, isStatus⟩, strength, isStrength⟩

theorem construct_eq_ok : construct sha256 self pairs = .ok item ↔
    item.Answers self ∧ item.inputVariant = pairs ∧ item.Valid sha256 := by
  simp only [construct, bind_eq_ok, asEvalError_eq_ok, raiseIf_eq_ok, not_not, pure_eq_ok]
  constructor
  · rintro ⟨_, held, _, nonempty, _, sorted, _, digest, rfl⟩
    obtain ⟨answers, texts, digests, corpus, generator, validation, status, strength⟩ :=
      (performAll_checks _).mp held
    exact ⟨answers, rfl, ⟨texts, digests, corpus, generator, validation, status, strength, nonempty,
      sorted, digest⟩⟩
  · rintro ⟨answers, rfl, valid⟩
    have same := ofAttributes_of_answers answers
    refine ⟨(), (performAll_checks item.inputVariant).mpr ?_, (), valid.nonempty, (), valid.sorted,
      (), ?_, same⟩
    · rw [same]
      exact ⟨answers, valid.texts, valid.digests, valid.corpus, valid.generator, valid.validation,
        valid.status, valid.strength⟩
    · rw [same]
      exact valid.digest

theorem names_fields (item : GeneratedEvalCase) : item.fields.map Prod.fst = fieldNames := by
  simp only [fields, claimFields, textFields, List.map_cons, List.map_nil, List.cons_append,
    List.nil_append, fieldNames]

theorem fields_nodup (item : GeneratedEvalCase) : (item.fields.map Prod.fst).Nodup := by
  rw [names_fields]
  decide

theorem get_toDict (item : GeneratedEvalCase) {entry : String × Json}
    (member : entry ∈ item.fields) : item.toDict.get entry.1 = entry.2 :=
      get_object_of_mem item.fields_nodup member

theorem mem_fields {field : String × String}
    (member : field ∈ item.textFields ++ [("case_digest", item.caseDigest)]) :
    (field.1, Json.str field.2) ∈ item.fields := by
  rw [fields, claimFields]
  rcases List.mem_append.mp member with text | digest
  · refine List.mem_append_left _ (List.mem_cons_of_mem _ (List.mem_cons_of_mem _
      (List.mem_cons_of_mem _ ?_)))
    exact List.mem_map.mpr ⟨field, text, rfl⟩
  · rw [List.mem_singleton.mp digest]
    exact List.mem_append_right _ List.mem_cons_self

theorem answers_toDict (item : GeneratedEvalCase) : item.Answers item.toDict.get := by
  intro field member
  have stored := get_object_of_mem item.fields_nodup (mem_fields member)
  exact stored

def Built (sha256 : String → String) (item : GeneratedEvalCase) : Prop :=
  ∃ self pairs, construct sha256 self pairs = .ok item

theorem built_iff : item.Built sha256 ↔ item.Valid sha256 := by
  constructor
  · rintro ⟨self, pairs, built⟩
    exact (construct_eq_ok.mp built).2.2
  · intro valid
    exact ⟨_, _, construct_eq_ok.mpr ⟨item.answers_toDict, rfl, valid⟩⟩

variable {document : Json}

theorem fromDict_eq_ok : fromDict sha256 repr document = .ok item ↔
    requireExactFields document fieldNames "generated-eval-case/v1" = .ok () ∧
    ((document.get "schema_version").equalsInt 1 = true ∧
      document.get "case_type" = .str "generated-eval-case/v1") ∧
    (∃ supplied, supplied ≠ [] ∧ document.get "input_variant" = .obj (storedPairs supplied) ∧
      item.inputVariant = sortedPairs supplied ∧ IsMapping supplied) ∧
    item.Answers document.get ∧ item.Valid sha256 := by
  simp only [fromDict, bind_eq_ok, asEvalError_eq_ok, raiseIf_eq_ok, not_or, not_not,
    Bool.not_eq_false, canonicalStringMapping_eq_ok, construct_eq_ok]
  constructor
  · rintro ⟨_, exactFields, _, typed, pairs, ⟨supplied, nonempty, same, rfl, mapping⟩, answers, own,
      valid⟩
    exact ⟨exactFields, typed, ⟨supplied, nonempty, same, own, mapping⟩, answers, valid⟩
  · rintro ⟨exactFields, typed, ⟨supplied, nonempty, same, own, mapping⟩, answers, valid⟩
    exact ⟨(), exactFields, (), typed, _, ⟨supplied, nonempty, same, rfl, mapping⟩, answers, own,
      valid⟩

theorem isMapping_of_fromDict (read : fromDict sha256 repr document = .ok item) :
    IsMapping item.inputVariant := by
  obtain ⟨-, -, ⟨supplied, -, -, same, mapping⟩, -⟩ := fromDict_eq_ok.mp read
  rw [same]
  exact mapping.sorted

theorem Valid.fromDict_toDict (valid : item.Valid sha256) (mapping : IsMapping item.inputVariant) :
    fromDict sha256 repr item.toDict = .ok item := by
  have get (entry : String × Json) (member : entry ∈ item.fields) :
      item.toDict.get entry.1 = entry.2 := item.get_toDict member
  have version := get ("schema_version", .int 1) (List.mem_cons_self ..)
  have type := get ("case_type", .str "generated-eval-case/v1")
    (List.mem_cons_of_mem _ (List.mem_cons_self ..))
  have inputs := get ("input_variant", .object (dictOf item.inputVariant))
    (List.mem_cons_of_mem _ (List.mem_cons_of_mem _ (List.mem_cons_self ..)))
  let supplied := item.inputVariant.insertionSort fun left right => left.1 ≤ right.1
  have perm : supplied.Perm item.inputVariant := List.perm_insertionSort _ _
  have stored : (storedPairs item.inputVariant).insertionSort keyLe = storedPairs supplied :=
    (List.map_insertionSort (fun left right : String × String => left.1 ≤ right.1) keyLe
      (fun pair => (pair.1, Json.str pair.2)) _ fun _ _ _ _ => Iff.rfl).symm
  have again : sortedPairs supplied = item.inputVariant :=
    (Sorting.insertionSort_eq_of_perm pairKey_injective perm).trans valid.sorted
  refine fromDict_eq_ok.mpr ⟨item.names_fields ▸ requireExactFields_object, ⟨?_, type⟩,
    ⟨supplied, ?_, ?_, again.symm, ?_⟩, item.answers_toDict, valid⟩
  · rw [version]
    rfl
  · intro none
    rw [none] at perm
    exact valid.nonempty perm.nil_eq.symm
  · rw [inputs, dictOf_of_nodup mapping.1, object, stored]
  · exact ⟨(perm.map Prod.fst).nodup_iff.mpr mapping.1,
      fun pair member => mapping.2 pair (perm.mem_iff.mp member)⟩

theorem wellFormed_toDict (mapping : IsMapping item.inputVariant) :
    item.toDict.WellFormed floats := by
  have inputs : (object (dictOf item.inputVariant)).WellFormed floats := by
    rw [dictOf_of_nodup mapping.1]
    refine wellFormed_object ?_ ?_
    · rw [storedPairs, List.map_map]
      exact mapping.1
    · intro field member
      obtain ⟨pair, -, rfl⟩ := List.mem_map.mp member
      exact .str _
  refine wellFormed_object item.fields_nodup fun field member => ?_
  simp only [fields, claimFields, List.cons_append, List.mem_cons, List.mem_append, List.mem_map,
    List.not_mem_nil, or_false] at member
  rcases member with rfl | rfl | rfl | ⟨text, -, rfl⟩ | rfl
  · exact .int 1 (by decide)
  · exact .str _
  · exact inputs
  · exact .str _
  · exact .str _

theorem normal_storedPairs {supplied : List (String × String)} (mapping : IsMapping supplied) :
    (Json.obj (storedPairs supplied)).normal =
      (object (storedPairs (sortedPairs supplied))).normal := by
  have names (pairs : List (String × String)) :
      (storedPairs pairs).map Prod.fst = pairs.map Prod.fst := by
    rw [storedPairs, List.map_map]
    rfl
  have perm := sortedPairs_perm supplied
  have distinct : ((storedPairs supplied).map Prod.fst).Nodup := by
    rw [names]
    exact mapping.1
  have wellFormed : (Json.obj (storedPairs supplied)).WellFormed default := by
    refine .obj _ distinct fun field member => ?_
    obtain ⟨pair, -, rfl⟩ := List.mem_map.mp member
    exact .str _
  have exactFields : requireExactFields (.obj (storedPairs supplied))
      ((storedPairs (sortedPairs supplied)).map Prod.fst) "" = .ok () := by
    refine requireExactFields_eq_ok.mpr ⟨_, rfl, fun key => ?_⟩
    rw [names, names]
    exact (perm.map Prod.fst).mem_iff.symm
  refine (normal_eq_object_iff wellFormed exactFields ?_).mpr fun entry member => ?_
  · rw [names]
    exact mapping.sorted.1
  · have listed : entry ∈ storedPairs supplied := (perm.map _).mem_iff.mp member
    rw [Json.get, get?, lookup_of_mem distinct listed]
    rfl

/-- A document that is read has the normal form of its case exactly when it states its version as
the integer. -/
theorem normal_iff (wellFormed : document.WellFormed floats)
    (read : fromDict sha256 repr document = .ok item) :
    document.normal = item.toDict.normal ↔ document.get "schema_version" = .int 1 := by
  obtain ⟨exactFields, ⟨-, type⟩, ⟨supplied, -, inputs, same, mapping⟩, answers, -⟩ :=
    fromDict_eq_ok.mp read
  have stored : dictOf item.inputVariant = storedPairs (sortedPairs supplied) := by
    rw [same]
    exact dictOf_of_nodup mapping.sorted.1
  rw [← item.names_fields] at exactFields
  rw [toDict, normal_eq_object_iff wellFormed exactFields item.fields_nodup]
  constructor
  · intro own
    exact normal_eq_int.mp (own ("schema_version", .int 1) (List.mem_cons_self ..))
  · intro version entry member
    simp only [fields, claimFields, List.cons_append, List.mem_cons, List.mem_append, List.mem_map,
      List.not_mem_nil, or_false] at member
    rcases member with rfl | rfl | rfl | ⟨text, listed, rfl⟩ | rfl
    · rw [version]
    · rw [type]
    · rw [inputs, stored]
      exact normal_storedPairs mapping
    · rw [answers text (List.mem_append_left _ listed)]
    · rw [answers ("case_digest", item.caseDigest) (List.mem_append_right _ List.mem_cons_self)]

def listedId (item : Json) : String := (item.get "case_id").text?.getD ""

theorem listedId_of_fromDict (read : fromDict sha256 repr document = .ok item) :
    listedId document = item.caseId := by
  obtain ⟨-, -, -, answers, -⟩ := fromDict_eq_ok.mp read
  rw [listedId, answers ("case_id", item.caseId) (List.mem_append_left _ List.mem_cons_self)]
  rfl

variable {items : List Json} {cases : List GeneratedEvalCase}

theorem forall₂_of_mapM (read : items.mapM (fromDict sha256 repr) = .ok cases) :
    List.Forall₂ (fun document item => fromDict sha256 repr document = .ok item) items cases := by
  induction items generalizing cases with
  | nil =>
      cases read
      exact .nil
  | cons document items induction =>
      rw [List.mapM_cons] at read
      simp only [bind_eq_ok, pure_eq_ok] at read
      obtain ⟨item, first, rest, later, rfl⟩ := read
      exact .cons first (induction later)

theorem mapM_toDict (valid : ∀ item ∈ cases, item.Valid sha256)
    (mapping : ∀ item ∈ cases, IsMapping item.inputVariant) :
    (cases.map toDict).mapM (fromDict sha256 repr) = .ok cases := by
  induction cases with
  | nil => rfl
  | cons item cases induction =>
      obtain ⟨own, valid⟩ := List.forall_mem_cons.mp valid
      obtain ⟨ownMapping, mapping⟩ := List.forall_mem_cons.mp mapping
      rw [List.map_cons, List.mapM_cons, own.fromDict_toDict ownMapping, ok_bind,
        induction valid mapping]
      rfl

theorem isMapping_of_forall₂
    (read : List.Forall₂ (fun document item => fromDict sha256 repr document = .ok item)
      items cases) :
    ∀ item ∈ cases, IsMapping item.inputVariant := by
  induction read with
  | nil => exact fun _ absent => absurd absent List.not_mem_nil
  | cons first rest induction =>
      exact List.forall_mem_cons.mpr ⟨isMapping_of_fromDict first, induction⟩

theorem map_listedId
    (read : List.Forall₂ (fun document item => fromDict sha256 repr document = .ok item)
      items cases) :
    items.map listedId = cases.map (·.caseId) := by
  induction read with
  | nil => rfl
  | cons first rest induction =>
      rw [List.map_cons, List.map_cons, listedId_of_fromDict first, induction]

theorem map_normal_iff
    (read : List.Forall₂ (fun document item => fromDict sha256 repr document = .ok item)
      items cases)
    (wellFormed : ∀ document ∈ items, document.WellFormed floats) :
    items.map Json.normal = cases.map (fun item => item.toDict.normal) ↔
      ∀ document ∈ items, document.get "schema_version" = .int 1 := by
  induction read with
  | nil => simp
  | cons first rest induction =>
      obtain ⟨own, wellFormed⟩ := List.forall_mem_cons.mp wellFormed
      rw [List.map_cons, List.map_cons, List.cons.injEq, normal_iff own first, induction wellFormed,
        List.forall_mem_cons]

end GeneratedEvalCase

end VoodooOne
