import VoodooOne.Authorization.Snapshot
import VoodooOne.Credential.Lifetime
import VoodooOne.Foundation.StoredForm
import VoodooOne.Verification.Result

/-!
# Forms of the stored contracts

Each contract is stored as the document that `to_dict` writes.  `from_dict` reads it back, and it
reads another document of the same object only where a version is compared as a number, or where
approvals are listed in another order.
-/

namespace VoodooOne

open Json

theorem ExecutionTarget.fields_nodup (target : ExecutionTarget) :
    (target.fields.map Prod.fst).Nodup := by simp [fields, claimFields]

theorem ExecutionTarget.oneForm (sha256 : String → String) :
    OneForm (Created sha256) toDict (fromDict sha256) fun _ => True where
  readBack _ created := created.fromDict_toDict
  written floats document target wellFormed read := by
    simp only [fromDict, requireIdentifier, bind_eq_ok, raiseIf_eq_ok, not_not, requireMatch_eq_ok,
      requireHexDigest_eq_ok, pure_eq_ok] at read
    obtain ⟨_, exactFields, _, version, _, type, _, ⟨kind, -, -⟩, _, created, _, ⟨digest, -⟩, _,
      same, rfl⟩ := read
    obtain ⟨-, -, -, text, -, -, rfl⟩ := create_eq_ok.mp created
    have again := (wellFormed.get "target_claims").normal.2
    refine iff_true_intro (canonicalJson_eq_of_answers wellFormed exactFields (fields_nodup _) ?_)
    simp only [fields, claimFields, List.cons_append, List.nil_append, List.forall_mem_cons]
    exact ⟨by rw [version], by rw [type], by rw [kind], again.symm, by rw [digest, same],
      List.forall_mem_nil _⟩

namespace ApprovalRecord

variable {floats : FloatRepr} {item : Json} {record other : ApprovalRecord}

/-- The key of a listed approval in the canonical order. -/
def listedKey (item : Json) : List String :=
  ["approval_id", "approver_id", "approved_at"].map fun field => (item.get field).text?.getD ""

theorem fields_nodup (record : ApprovalRecord) : (record.fields.map Prod.fst).Nodup := by
  simp [fields]

theorem answers_of_fromDict (read : fromDict item = .ok record) :
    requireExactFields item (record.fields.map Prod.fst) "approval-record/v1" = .ok () ∧
      ∀ entry ∈ record.fields, item.get entry.1 = entry.2 := by
  simp only [fromDict, bind_eq_ok] at read
  obtain ⟨_, exactFields, created⟩ := read
  exact ⟨exactFields, (create_eq_ok.mp created).1⟩

theorem normal_of_fromDict (wellFormed : item.WellFormed floats)
    (read : fromDict item = .ok record) : item.normal = record.toDict.normal := by
  obtain ⟨exactFields, answers⟩ := answers_of_fromDict read
  refine (normal_eq_object_iff wellFormed exactFields record.fields_nodup).mpr ?_
  exact fun entry member => congrArg Json.normal (answers entry member)

theorem listedKey_of_fromDict (read : fromDict item = .ok record) :
    listedKey item = record.sortKey := by
  have answers := (answers_of_fromDict read).2
  simp only [fields, List.forall_mem_cons] at answers
  obtain ⟨approval, approver, -, approved, -⟩ := answers
  simp only [listedKey, List.map_cons, List.map_nil, approval, approver, approved, Json.text?,
    Option.getD_some, sortKey]

theorem wellFormed_toDict (floats : FloatRepr) (record : ApprovalRecord) :
    record.toDict.WellFormed floats := by
  refine wellFormed_object record.fields_nodup ?_
  simp only [fields, List.forall_mem_cons]
  exact ⟨.str _, .str _, .str _, .str _, List.forall_mem_nil _⟩

theorem eq_of_normal (floats : FloatRepr) (same : record.toDict.normal = other.toDict.normal) :
    record = other := by
  have exactFields : requireExactFields record.toDict (other.fields.map Prod.fst) "" = .ok () :=
    requireExactFields_object
  have answers := (normal_eq_object_iff (wellFormed_toDict floats record) exactFields
    other.fields_nodup).mp same
  have own (entry : String × Json) (member : entry ∈ record.fields) :
      record.toDict.get entry.1 = entry.2 := get_object_of_mem record.fields_nodup member
  simp only [fields, List.forall_mem_cons] at own answers
  cases record
  cases other
  simpa only [own, Json.normal, Json.str.injEq, mk.injEq, List.not_mem_nil, false_imp_iff,
    implies_true, and_true] using answers

theorem pairwise_ordered (records : List ApprovalRecord) :
    (records.insertionSort Le).Pairwise fun left right => left.sortKey ≤ right.sortKey := by
  have total : Std.Total Le := ⟨fun left right => le_total left.sortKey right.sortKey⟩
  have trans : IsTrans ApprovalRecord Le := ⟨fun _ _ _ first second => le_trans first second⟩
  exact List.pairwise_insertionSort Le records

variable {records : List ApprovalRecord} {items : List Json}

theorem forall₂_of_mapM (read : items.mapM fromDict = .ok records) :
    List.Forall₂ (fun item record => fromDict item = .ok record) items records := by
  induction items generalizing records with
  | nil =>
      cases read
      exact .nil
  | cons item items induction =>
      rw [List.mapM_cons] at read
      simp only [bind_eq_ok, pure_eq_ok] at read
      obtain ⟨record, first, records, rest, rfl⟩ := read
      exact .cons first (induction rest)

theorem map_normal_of_mapM (each : ∀ item ∈ items, item.WellFormed floats)
    (read : List.Forall₂ (fun item record => fromDict item = .ok record) items records) :
    items.map Json.normal = records.map fun record => record.toDict.normal := by
  induction read with
  | nil => rfl
  | cons first rest induction =>
      obtain ⟨item, items⟩ := List.forall_mem_cons.mp each
      rw [List.map_cons, List.map_cons, normal_of_fromDict item first, induction items]

theorem map_listedKey_of_mapM
    (read : List.Forall₂ (fun item record => fromDict item = .ok record) items records) :
    items.map listedKey = records.map sortKey := by
  induction read with
  | nil => rfl
  | cons first rest induction =>
      rw [List.map_cons, List.map_cons, listedKey_of_fromDict first, induction]

end ApprovalRecord

theorem requireArray_eq_ok {value : Json} {field : String} {items : List Json} :
    requireArray value field = .ok items ↔ value = .arr items := by
  cases value <;> simp [requireArray]

namespace ApprovalEvidenceSet

def ListedInOrder (document : Json) : Prop :=
  ∃ items, document.get "approvals" = .arr items ∧
    (items.map ApprovalRecord.listedKey).Pairwise (· ≤ ·)

theorem fields_nodup (evidence : ApprovalEvidenceSet) : (evidence.fields.map Prod.fst).Nodup := by
  simp [fields, claimFields, textFields]

theorem answers_of_fromDict {sha256 : String → String} {document : Json}
    {evidence : ApprovalEvidenceSet} (read : fromDict sha256 document = .ok evidence) :
    requireExactFields document (evidence.fields.map Prod.fst) "approval-evidence-set/v1" = .ok () ∧
      (∃ items supplied, document.get "approvals" = .arr items ∧
        List.Forall₂ (fun item record => ApprovalRecord.fromDict item = .ok record) items supplied ∧
        evidence.approvals = supplied.insertionSort ApprovalRecord.Le) ∧
      ∀ entry ∈ evidence.fields, entry = ("approvals", .arr (evidence.approvals.map (·.toDict))) ∨
        document.get entry.1 = entry.2 := by
  simp only [fromDict, bind_eq_ok, raiseIf_eq_ok, not_not, requireArray_eq_ok,
    requireHexDigest_eq_ok, pure_eq_ok] at read
  obtain ⟨_, exactFields, _, version, _, type, items, isArray, found, created, _, ⟨digest, -⟩, _,
    rfl, same⟩ := read
  obtain rfl : found = evidence := same
  obtain ⟨texts, ⟨supplied, isSupplied, ordered⟩, -⟩ := create_eq_ok.mp created
  refine ⟨exactFields, ⟨items, supplied, isArray, ApprovalRecord.forall₂_of_mapM isSupplied,
    ordered⟩, ?_⟩
  simp only [fields, claimFields, List.cons_append, List.forall_mem_cons]
  refine ⟨.inr version, .inr type, .inl trivial, fun entry member => .inr ?_⟩
  rcases List.mem_append.mp member with text | last
  · exact texts entry text
  · obtain rfl := List.mem_singleton.mp last
    exact digest

theorem oneForm (sha256 : String → String) :
    OneForm (Created sha256) toDict (fromDict sha256) ListedInOrder where
  readBack _ created := created.fromDict_toDict
  written floats document evidence wellFormed read := by
    obtain ⟨exactFields, ⟨items, supplied, isArray, records, ordered⟩, answers⟩ :=
      answers_of_fromDict read
    have each : ∀ item ∈ items, item.WellFormed floats := by
      have array := wellFormed.get "approvals"
      rw [isArray] at array
      cases array with
      | arr _ each => exact each
    have normals := ApprovalRecord.map_normal_of_mapM each records
    have keys := ApprovalRecord.map_listedKey_of_mapM records
    constructor
    · intro same
      have listed := answers_of_canonicalJson wellFormed exactFields (fields_nodup _)
        (fun entry member => ?_) same
      · have approvals := listed ("approvals", .arr (evidence.approvals.map (·.toDict)))
          (by simp [fields, claimFields])
        rw [isArray, Json.normal, Json.normal, Json.arr.injEq, normalItems_eq_map,
          normalItems_eq_map, normals, List.map_map] at approvals
        have sorted : supplied = evidence.approvals :=
          List.map_injective_iff.mpr (fun _ _ => ApprovalRecord.eq_of_normal floats) approvals
        refine ⟨items, isArray, ?_⟩
        rw [keys, List.pairwise_map, sorted, ordered]
        exact ApprovalRecord.pairwise_ordered supplied
      · rcases answers entry member with rfl | answer
        · refine .arr _ fun item member => ?_
          obtain ⟨record, -, rfl⟩ := List.mem_map.mp member
          exact record.wellFormed_toDict floats
        · exact answer ▸ wellFormed.get entry.1
    · rintro ⟨listed, isListed, inOrder⟩
      obtain rfl := Json.arr.inj (isArray.symm.trans isListed)
      have sorted : evidence.approvals = supplied := by
        rw [ordered]
        refine List.Pairwise.insertionSort_eq ?_
        rw [keys, List.pairwise_map] at inOrder
        exact inOrder
      refine canonicalJson_eq_of_answers wellFormed exactFields (fields_nodup _)
        fun entry member => ?_
      rcases answers entry member with rfl | answer
      · rw [isArray, Json.normal, Json.normal, normalItems_eq_map, normalItems_eq_map, normals,
          sorted, List.map_map]
        rfl
      · rw [answer]

end ApprovalEvidenceSet

namespace AuthorizationSnapshot

theorem fields_names (snapshot : AuthorizationSnapshot) :
    snapshot.fields.map Prod.fst = fieldNames := rfl

theorem fields_nodup (snapshot : AuthorizationSnapshot) : (snapshot.fields.map Prod.fst).Nodup := by
  rw [fields_names]
  decide

def CreatedFor (sha256 : String → String) (target : ExecutionTarget)
    (evidence : ApprovalEvidenceSet) (snapshot : AuthorizationSnapshot) : Prop :=
  snapshot.Created sha256 ∧ snapshot.executionTarget = target ∧ snapshot.approvalEvidence = evidence

theorem oneForm (sha256 : String → String) (target : ExecutionTarget)
    (evidence : ApprovalEvidenceSet) :
    OneForm (CreatedFor sha256 target evidence) toDict
      (fun document => fromDict sha256 document target evidence)
      fun document => document.get "schema_version" = .int 1 where
  readBack := by
    rintro snapshot ⟨created, rfl, rfl⟩
    exact created.fromDict_toDict
  written floats document snapshot wellFormed read := by
    simp only [fromDict, bind_eq_ok, raiseIf_eq_ok, not_not, forEach_eq_ok, pure_eq_ok] at read
    obtain ⟨_, exactFields, _, -, _, -, _, -, found, -, _, answers, same⟩ := read
    obtain rfl : found = snapshot := same
    rw [← found.fields_names] at exactFields
    refine canonicalJson_iff_version wellFormed exactFields found.fields_nodup (by decide)
      (List.mem_cons_self ..) fun entry member => ?_
    rcases List.mem_cons.mp member with version | rest
    · exact .inl version
    · exact .inr (answers entry rest)

end AuthorizationSnapshot

/-- Every valid object of a stored contract is read back from its document.  A document that is
read has the canonical text of its object exactly when it states its version as the integer, and
lists its approvals in the canonical order. -/
theorem storedForms_canonical_iff (sha256 : String → String) :
    OneForm (ExecutionTarget.Created sha256) ExecutionTarget.toDict
        (ExecutionTarget.fromDict sha256) (fun _ => True) ∧
      OneForm (ApprovalEvidenceSet.Created sha256) ApprovalEvidenceSet.toDict
        (ApprovalEvidenceSet.fromDict sha256) ApprovalEvidenceSet.ListedInOrder ∧
      (∀ target evidence, OneForm (AuthorizationSnapshot.CreatedFor sha256 target evidence)
        AuthorizationSnapshot.toDict
        (fun document => AuthorizationSnapshot.fromDict sha256 document target evidence)
        fun document => document.get "schema_version" = .int 1) ∧
      OneForm (DispatchEnvelope.contract.Built sha256) DispatchEnvelope.contract.toDict
        (DispatchEnvelope.contract.fromDict sha256)
        (fun document => document.get "schema_version" = .int 1) ∧
      OneForm (ExecutionLease.contract.Built sha256) ExecutionLease.toDict
        (ExecutionLease.fromDict sha256)
        (fun document => document.get "schema_version" = .int 1) ∧
      OneForm (VerificationResult.contract.Built sha256) VerificationResult.toDict
        (VerificationResult.fromDict sha256)
        (fun document => document.get "schema_version" = .int 1) :=
  ⟨ExecutionTarget.oneForm sha256, ApprovalEvidenceSet.oneForm sha256,
    AuthorizationSnapshot.oneForm sha256,
    Contract.oneForm DispatchEnvelope.lawful sha256 (by decide),
    Contract.oneForm ExecutionLease.lawful sha256 (by decide),
    Contract.oneForm VerificationResult.lawful sha256 (by decide)⟩

namespace TrueVersion

def lease : ExecutionLease := OutlivingDecision.lease sampleDigest

/-- Its document, with `true` for the version. -/
def document : Json := .object (ExecutionLease.contract.fieldsUnder (.bool true) lease)

theorem lease_built : ExecutionLease.contract.Built sampleDigest.hexdigest lease :=
  ⟨_, OutlivingDecision.lease_created sampleDigest⟩

theorem names : (ExecutionLease.contract.fieldsUnder (.bool true) lease).map Prod.fst =
      ExecutionLease.contract.fieldNames :=
  Contract.fieldsWith_names ExecutionLease.lawful lease lease.leaseDigest

theorem wellFormed : document.WellFormed default := by
  refine wellFormed_object (names.symm ▸ ExecutionLease.lawful.distinct) ?_
  simp only [ExecutionLease.contract, Contract.fieldsUnder, Contract.fieldsWith,
    Contract.claimFields, ExecutionLease.claims, List.cons_append, List.nil_append, List.tail_cons,
    List.forall_mem_cons]
  exact ⟨.bool _, .str _, .str _, .str _, .str _, .str _, .str _, .str _, .str _, .str _, .str _,
    .int 1 (by decide), .str _, .str _, .str _, .str _, .str _, List.forall_mem_nil _⟩

theorem document_read : ExecutionLease.fromDict sampleDigest.hexdigest document = .ok lease := by
  obtain ⟨self, built⟩ := lease_built
  exact Contract.fromDict_fieldsUnder ExecutionLease.lawful built rfl

theorem version : document.get "schema_version" = .bool true :=
  get_object_of_mem (names.symm ▸ ExecutionLease.lawful.distinct) (List.mem_cons_self ..)

/-- The lease is read from a document with another canonical text. -/
theorem two_forms : ExecutionLease.fromDict sampleDigest.hexdigest document = .ok lease ∧
    ExecutionLease.fromDict sampleDigest.hexdigest lease.toDict = .ok lease ∧
    canonicalJson document ≠ canonicalJson lease.toDict := by
  have form := Contract.oneForm ExecutionLease.lawful sampleDigest.hexdigest (by decide)
  refine ⟨document_read, form.readBack lease lease_built, fun same => ?_⟩
  have stated := (form.written default document lease wellFormed document_read).mp same
  rw [version] at stated
  exact Json.noConfusion stated

end TrueVersion

end VoodooOne
