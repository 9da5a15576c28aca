import Mathlib.Data.List.Perm.Basic
import VoodooOne.Authorization.SnapshotRuns
import VoodooOne.Evidence.StoredForms
import VoodooOne.Library.Sorting

/-!
# Order of approvals

An evidence set does not depend on the order in which its approvals are given, and neither does the
idempotency binding of a snapshot.  The digest of a set determines its approvals.
-/

namespace VoodooOne

open Calendar

namespace ApprovalEvidenceSet

variable {sha256 : String → String} {self other : Attributes}
  {items others : List (Option ApprovalRecord)} {records found : List ApprovalRecord}
  {evidence evidence' : ApprovalEvidenceSet} {validUntil : Instant}

/-- The exception of approvals that are missing or no approval records. -/
def notRecords : Raised := valueError "approvals must contain approved records"

/-- `create` of items that may be no approval records. -/
def createFrom (sha256 : String → String) (self : Attributes)
    (items : List (Option ApprovalRecord)) : Except Raised ApprovalEvidenceSet :=
  create sha256 self (orRaise notRecords (items.mapM id))

/-- What a set has besides its approvals is valid. -/
structure HeaderValid (attributes : Attributes) (validUntil : Instant) : Prop where
  request : ∃ text, requireIdentifier (attributes "request_id") "request_id" = .ok text
  payload : ∃ text, requireHexDigest (attributes "payload_digest") "payload_digest" = .ok text
  target : ∃ text, requireHexDigest (attributes "target_digest") "target_digest" = .ok text
  capability : ∃ text, requireCapability (attributes "capability") = .ok text
  policy : ∃ text, requirePolicyVersion (attributes "policy_version") = .ok text
  time : requireTimestamp (attributes "approval_valid_until") "approval_valid_until" =
    .ok validUntil

/-- An approval at or before the end of the validity. -/
def InTime (validUntil : Instant) (record : ApprovalRecord) : Prop :=
  ∃ approvedAt : Instant, record.approvedAt = approvedAt.isoformat ∧
    ValidText approvedAt.isoformat ∧ approvedAt ≤ validUntil

def Refused (validUntil : Instant) (items : List (Option ApprovalRecord)) : Prop :=
  items = [] ∨ none ∈ items ∨ ¬((items.filterMap id).map (·.approvalId)).Nodup ∨
    ¬((items.filterMap id).map (·.approverId)).Nodup ∨
    ∃ record, some record ∈ items ∧ ¬InTime validUntil record

theorem mapM_id_eq_some : items.mapM id = some records ↔ items = records.map some := by
  induction items generalizing records with
  | nil => cases records <;> simp [pure]
  | cons item items induction =>
      simp only [List.mapM_cons, id_eq, bind, Option.bind_eq_some_iff, pure, Option.some.injEq]
      constructor
      · rintro ⟨record, rfl, rest, read, rfl⟩
        rw [induction.mp read, List.map_cons]
      · intro same
        cases records with
        | nil => cases same
        | cons record rest =>
            obtain ⟨rfl, read⟩ := List.cons.inj same
            exact ⟨record, rfl, rest, induction.mpr read, rfl⟩

theorem mapM_id_eq_none : items.mapM id = none ↔ none ∈ items := by
  induction items with
  | nil => simp [pure]
  | cons item items induction =>
      cases item with
      | none => simp
      | some record =>
          cases rest : items.mapM id with
          | none => simpa [rest] using induction.mp rest
          | some records => simpa [rest] using induction.not.mp (by simp [rest])

theorem createFrom_map (records : List ApprovalRecord) :
    createFrom sha256 self (records.map some) = create sha256 self (.ok records) := by
  rw [createFrom, mapM_id_eq_some.mpr rfl, orRaise]

theorem createFrom_of_none (missing : none ∈ items) :
    createFrom sha256 self items = create sha256 self (.error notRecords) := by
  rw [createFrom, mapM_id_eq_none.mpr missing, orRaise]

theorem records_or_none (items : List (Option ApprovalRecord)) :
    (∃ records : List ApprovalRecord, items = records.map some) ∨ none ∈ items := by
  cases read : items.mapM id with
  | none => exact .inr (mapM_id_eq_none.mp read)
  | some records => exact .inl ⟨records, mapM_id_eq_some.mp read⟩

/-- `create`, from its approvals on. -/
def createSorted (sha256 : String → String)
    (requestId payloadDigest targetDigest capability policyVersion : String) (validUntil : Instant)
    (supplied : List ApprovalRecord) : Except Raised ApprovalEvidenceSet := do
  raiseIf (supplied = []) notRecords
  let ordered := supplied.insertionSort ApprovalRecord.Le
  raiseIf (¬(ordered.map (·.approvalId)).Nodup) (valueError "approval IDs must be distinct")
  raiseIf (¬(ordered.map (·.approverId)).Nodup) (valueError "approver identities must be distinct")
  forEach (fun approval => do
    let approvedAt ← requireTimestamp (.str approval.approvedAt) "approved_at"
    raiseIf (validUntil < approvedAt)
      (valueError "approval occurs after approval validity")) ordered
  let draft : ApprovalEvidenceSet := ⟨requestId, payloadDigest, targetDigest, capability,
    policyVersion, ordered, validUntil.isoformat, ""⟩
  let approvalSetDigest ← requireHexDigest (.str (digestOf sha256 (.object draft.claimFields)))
    "approval_set_digest"
  return { draft with approvalSetDigest }

theorem create_eq_createSorted : create sha256 self (.ok records) = (do
    let requestId ← requireIdentifier (self "request_id") "request_id"
    let payloadDigest ← requireHexDigest (self "payload_digest") "payload_digest"
    let targetDigest ← requireHexDigest (self "target_digest") "target_digest"
    let capability ← requireCapability (self "capability")
    let policyVersion ← requirePolicyVersion (self "policy_version")
    let validUntil ← requireTimestamp (self "approval_valid_until") "approval_valid_until"
    createSorted sha256 requestId payloadDigest targetDigest capability policyVersion validUntil
      records) := rfl

theorem perm_ordered (records : List ApprovalRecord) :
    (records.insertionSort ApprovalRecord.Le).Perm records :=
  List.perm_insertionSort ApprovalRecord.Le records

theorem ordered_eq_of_perm (perm : records.Perm found)
    (distinct : (records.map (·.approvalId)).Nodup) :
    records.insertionSort ApprovalRecord.Le = found.insertionSort ApprovalRecord.Le := by
  have keys : (records.map ApprovalRecord.sortKey).Nodup := by
    have first : (records.map ApprovalRecord.sortKey).map List.head? =
        (records.map (·.approvalId)).map some := by
      rw [List.map_map, List.map_map]
      rfl
    refine List.Nodup.of_map List.head? ?_
    rw [first]
    exact distinct.map (Option.some_injective String)
  exact Sorting.insertionSort_eq_of_distinct keys perm

variable {requestId payloadDigest targetDigest capability policyVersion : String}

theorem createSorted_eq_of_perm (perm : records.Perm found) :
    createSorted sha256 requestId payloadDigest targetDigest capability policyVersion validUntil
        records =
      createSorted sha256 requestId payloadDigest targetDigest capability policyVersion validUntil
        found := by
  have empty : records = [] ↔ found = [] := by
    rw [← List.length_eq_zero_iff, ← List.length_eq_zero_iff, perm.length_eq]
  have same : (records.insertionSort ApprovalRecord.Le).Perm
      (found.insertionSort ApprovalRecord.Le) :=
    (perm_ordered records).trans (perm.trans (perm_ordered found).symm)
  by_cases distinct : (records.map (·.approvalId)).Nodup
  · simp only [createSorted, empty, ordered_eq_of_perm perm distinct]
  · have repeated (given : List ApprovalRecord) (there : given.Perm records) :
        ¬((given.insertionSort ApprovalRecord.Le).map (·.approvalId)).Nodup := fun nodup =>
      distinct (((perm_ordered given).trans there).map _ |>.nodup_iff.mp nodup)
    simp only [createSorted, empty, raiseIf, if_pos (repeated records (.refl _)),
      if_pos (repeated found perm.symm)]
    by_cases none : found = []
    · simp only [if_pos none]
      rfl
    · simp only [if_neg none]
      rfl

theorem createFrom_eq_of_perm (perm : items.Perm others) :
    createFrom sha256 self items = createFrom sha256 self others := by
  rcases records_or_none items with ⟨records, rfl⟩ | missing
  · rcases records_or_none others with ⟨found, rfl⟩ | missing
    · have unordered := List.map_perm_map_iff (Option.some_injective _) |>.mp perm
      rw [createFrom_map, createFrom_map, create_eq_createSorted, create_eq_createSorted]
      simp only [createSorted_eq_of_perm unordered]
    · have here := perm.mem_iff.mpr missing
      simp at here
  · rw [createFrom_of_none missing, createFrom_of_none (perm.mem_iff.mp missing)]

theorem create_error {error : Raised} (header : HeaderValid self validUntil) :
    create sha256 self (.error error) = .error error := by
  obtain ⟨_, request⟩ := header.request
  obtain ⟨_, payload⟩ := header.payload
  obtain ⟨_, target⟩ := header.target
  obtain ⟨_, capability⟩ := header.capability
  obtain ⟨_, policy⟩ := header.policy
  simp only [create, request, payload, target, capability, policy, header.time, ok_bind]
  rfl

theorem createSorted_eq_ok (sha256 : Sha256) :
    (∃ evidence, createSorted sha256.hexdigest requestId payloadDigest targetDigest capability
        policyVersion validUntil records = .ok evidence) ↔
      records ≠ [] ∧ (records.map (·.approvalId)).Nodup ∧ (records.map (·.approverId)).Nodup ∧
        ∀ record ∈ records, InTime validUntil record := by
  have ids (field : ApprovalRecord → String) :
      ((records.insertionSort ApprovalRecord.Le).map field).Nodup ↔ (records.map field).Nodup :=
    ((perm_ordered records).map field).nodup_iff
  simp only [createSorted, bind_eq_ok, raiseIf_eq_ok, not_not, forEach_eq_ok,
    requireTimestamp_eq_ok, requireHexDigest_eq_ok, pure_eq_ok, Json.str.injEq, ids,
    (perm_ordered records).mem_iff, InTime, exists_const]
  constructor
  · rintro ⟨_, nonempty, approvals, approvers, inTime, -⟩
    refine ⟨nonempty, approvals, approvers, fun record member => ?_⟩
    obtain ⟨approvedAt, ⟨same, valid⟩, before⟩ := inTime record member
    exact ⟨approvedAt, same, valid, not_lt.mp before⟩
  · rintro ⟨nonempty, approvals, approvers, inTime⟩
    refine ⟨_, nonempty, approvals, approvers, fun record member => ?_, _,
      ⟨rfl, sha256.isDigest _⟩, rfl⟩
    obtain ⟨approvedAt, same, valid, before⟩ := inTime record member
    exact ⟨approvedAt, ⟨same, valid⟩, not_lt.mpr before⟩

theorem exists_error_iff {α : Type} {result : Except Raised α} :
    (∃ error, result = .error error) ↔ ¬∃ value, result = .ok value := by
  cases result <;> simp

theorem id_comp_some {α : Type} : (id : Option α → Option α) ∘ some = some := rfl

theorem createFrom_eq_error (sha256 : Sha256) (header : HeaderValid self validUntil) :
    (∃ error, createFrom sha256.hexdigest self items = .error error) ↔
      Refused validUntil items := by
  rcases records_or_none items with ⟨records, rfl⟩ | missing
  · obtain ⟨_, request⟩ := header.request
    obtain ⟨_, payload⟩ := header.payload
    obtain ⟨_, target⟩ := header.target
    obtain ⟨_, capability⟩ := header.capability
    obtain ⟨_, policy⟩ := header.policy
    rw [createFrom_map, create_eq_createSorted]
    simp only [request, payload, target, capability, policy, header.time, ok_bind]
    rw [exists_error_iff, createSorted_eq_ok sha256]
    simp only [Refused, List.map_eq_nil_iff, List.filterMap_map, id_comp_some, List.filterMap_some,
      List.mem_map, Option.some.injEq, exists_eq_right, reduceCtorEq, and_false, exists_false,
      false_or, not_and_or, not_not, not_forall, exists_prop]
  · rw [createFrom_of_none missing, create_error header]
    exact iff_of_true ⟨_, rfl⟩ (.inr (.inl missing))

theorem items_perm (created : createFrom sha256 self items = .ok evidence) :
    items.Perm (evidence.approvals.map some) := by
  obtain ⟨-, ⟨supplied, same, ordered⟩, -⟩ := create_eq_ok.mp created
  rw [orRaise_eq_ok, mapM_id_eq_some] at same
  rw [same, ordered]
  exact ((perm_ordered supplied).map some).symm

theorem approvals_eq_of_perm (created : createFrom sha256 self items = .ok evidence)
    (created' : createFrom sha256 other others = .ok evidence') (perm : items.Perm others) :
    evidence.approvals = evidence'.approvals := by
  obtain ⟨-, -, valid⟩ := create_eq_ok.mp created
  obtain ⟨-, -, valid'⟩ := create_eq_ok.mp created'
  have unordered : evidence.approvals.Perm evidence'.approvals :=
    (List.map_perm_map_iff (Option.some_injective _)).mp
      ((items_perm created).symm.trans (perm.trans (items_perm created')))
  rw [← valid.ordered, ← valid'.ordered]
  exact ordered_eq_of_perm unordered valid.distinct.1

def digestText (evidence : ApprovalEvidenceSet) : String :=
  canonicalJson (.object evidence.claimFields)

theorem digest_of_created (created : createFrom sha256 self items = .ok evidence) :
    evidence.approvalSetDigest = sha256 evidence.digestText := by
  obtain ⟨-, -, valid⟩ := create_eq_ok.mp created
  exact valid.digest.1

theorem claims_wellFormed (evidence : ApprovalEvidenceSet) :
    ∀ field ∈ evidence.claimFields, field.2.WellFormed default := by
  simp only [claimFields, textFields, List.forall_mem_cons]
  refine ⟨.int 1 (by decide), .str _, .arr _ fun item member => ?_, .str _, .str _, .str _, .str _,
    .str _, .str _, List.forall_mem_nil _⟩
  obtain ⟨record, -, rfl⟩ := List.mem_map.mp member
  exact record.wellFormed_toDict default

theorem eq_of_digestText (same : evidence.digestText = evidence'.digestText) :
    evidence.approvals = evidence'.approvals ∧ evidence.textFields = evidence'.textFields := by
  have distinct : (evidence.claimFields.map Prod.fst).Nodup := by simp [claimFields, textFields]
  have normals : Json.normalFields evidence.claimFields = Json.normalFields evidence'.claimFields :=
    fields_of_canonicalJson rfl distinct evidence.claims_wellFormed evidence'.claims_wellFormed same
  rw [Json.normalFields_eq_map, Json.normalFields_eq_map] at normals
  simp only [claimFields, textFields, List.map_cons, List.map_nil, Json.normal,
    Json.normalItems_eq_map, List.cons.injEq, Prod.mk.injEq, Json.str.injEq, Json.arr.injEq,
    true_and, and_true, List.map_map] at normals
  obtain ⟨approvals, request, payload, target, capability, policy, time⟩ := normals
  refine ⟨List.map_injective_iff.mpr (fun _ _ => ApprovalRecord.eq_of_normal default) approvals, ?_⟩
  simp only [textFields, request, payload, target, capability, policy, time]

end ApprovalEvidenceSet

/-- Fields that answer their names are determined by them. -/
theorem fields_eq_map {self : Attributes} {fields : List (String × Json)}
    (held : ∀ entry ∈ fields, self entry.1 = entry.2) :
    fields = (fields.map Prod.fst).map fun name => (name, self name) := by
  rw [List.map_map]
  refine ((List.map_congr_left fun entry member => ?_).trans (List.map_id _)).symm
  exact Prod.ext rfl (held entry member)

/-- Snapshots that differ in their identifiers and their time only have one idempotency binding. -/
theorem AuthorizationSnapshot.bindingFields_eq {sha256 : String → String} {self other : Attributes}
    {target : ExecutionTarget} {evidence : ApprovalEvidenceSet} {left right : AuthorizationSnapshot}
    (leftCreated : create sha256 self target evidence = .ok left)
    (rightCreated : create sha256 other target evidence = .ok right)
    (alike : ∀ field ∉ ["snapshot_id", "execution_id", "authorized_at"], self field = other field) :
    left.bindingFields = right.bindingFields := by
  obtain ⟨leftFields, rfl, rfl, -⟩ := create_eq_ok.mp leftCreated
  obtain ⟨rightFields, sameTarget, sameEvidence, -⟩ := create_eq_ok.mp rightCreated
  have direct : left.directFields.filter (fun field =>
        field.1 ∉ ["snapshot_id", "execution_id", "authorized_at"]) =
      right.directFields.filter fun field =>
        field.1 ∉ ["snapshot_id", "execution_id", "authorized_at"] := by
    have names : left.directFields.map Prod.fst = right.directFields.map Prod.fst := rfl
    rw [fields_eq_map leftFields, fields_eq_map rightFields, names]
    generalize right.directFields.map Prod.fst = names
    rw [List.filter_map, List.filter_map]
    refine List.map_congr_left fun name member => ?_
    rw [alike name (of_decide_eq_true (List.mem_filter.mp member).2)]
  have derived : left.derivedFields = right.derivedFields := by
    simp only [derivedFields, targetKind, targetDigest, approvalSetDigest, approvalValidUntil,
      sameTarget, sameEvidence]
  simp only [bindingFields, claimFields, List.filter_cons, List.filter_append, direct, derived]

namespace ApprovalEvidenceSet

/-- A set does not depend on the order of its items, is refused for what its items are, and has the
digest of its items and its other fields only.  Snapshots of the same authorization with the same
items have one idempotency binding. -/
theorem createFrom_unordered (sha256 : Sha256) : (∀ self items others, items.Perm others →
      createFrom sha256.hexdigest self items = createFrom sha256.hexdigest self others) ∧
    (∀ self validUntil items, HeaderValid self validUntil →
      ((∃ error, createFrom sha256.hexdigest self items = .error error) ↔
        Refused validUntil items)) ∧
    (∀ self other items others evidence evidence',
      createFrom sha256.hexdigest self items = .ok evidence →
      createFrom sha256.hexdigest other others = .ok evidence' →
      (items.Perm others ∧ evidence.textFields = evidence'.textFields →
        evidence.approvalSetDigest = evidence'.approvalSetDigest) ∧
      (evidence.approvalSetDigest = evidence'.approvalSetDigest →
        items.Perm others ∧ evidence.textFields = evidence'.textFields ∨
          Collision sha256.hexdigest evidence.digestText evidence'.digestText)) ∧
    ∀ self items others evidence evidence' first second target snapshot snapshot',
      items.Perm others → createFrom sha256.hexdigest self items = .ok evidence →
      createFrom sha256.hexdigest self others = .ok evidence' →
      AuthorizationSnapshot.create sha256.hexdigest first target evidence = .ok snapshot →
      AuthorizationSnapshot.create sha256.hexdigest second target evidence' = .ok snapshot' →
      (∀ field ∉ ["snapshot_id", "execution_id", "authorized_at"], first field = second field) →
      snapshot.idempotencyBindingDigest sha256.hexdigest =
        snapshot'.idempotencyBindingDigest sha256.hexdigest := by
  refine ⟨fun self items others => createFrom_eq_of_perm,
    fun self validUntil items => createFrom_eq_error sha256, ?_, ?_⟩
  · intro self other items others evidence evidence' created created'
    have own := items_perm created
    have own' := items_perm created'
    rw [digest_of_created created, digest_of_created created']
    constructor
    · rintro ⟨perm, texts⟩
      have approvals : evidence.approvals = evidence'.approvals :=
        approvals_eq_of_perm created created' perm
      simp only [digestText, claimFields, approvals, texts]
    · intro same
      by_cases texts : evidence.digestText = evidence'.digestText
      · obtain ⟨approvals, fields⟩ := eq_of_digestText texts
        exact .inl ⟨own.trans (approvals ▸ own'.symm), fields⟩
      · exact .inr ⟨texts, same⟩
  · intro self items others evidence evidence' first second target snapshot snapshot' perm created
      created' left right alike
    rw [createFrom_eq_of_perm perm] at created
    obtain rfl := Except.ok.inj (created.symm.trans created')
    exact congrArg (fun fields => digestOf sha256.hexdigest (.object fields))
      (AuthorizationSnapshot.bindingFields_eq left right alike)

/-- The fields of a set besides its approvals. -/
def header : Attributes := fun field =>
  match field with
  | "approval_valid_until" => .str sampleTime.isoformat
  | "payload_digest" => .str sampleDigest.someDigest
  | "target_digest" => .str sampleDigest.someDigest
  | "capability" => .str "write/v1"
  | _ => .str "request"

theorem header_valid : HeaderValid header sampleTime where
  request := ⟨"request", requireMatch_eq_ok.mpr ⟨rfl, by decide, by decide⟩⟩
  payload := ⟨_, requireHexDigest_eq_ok.mpr ⟨rfl, sampleDigest.isDigest _⟩⟩
  target := ⟨_, requireHexDigest_eq_ok.mpr ⟨rfl, sampleDigest.isDigest _⟩⟩
  capability := ⟨"write/v1", requireMatch_eq_ok.mpr ⟨rfl, by decide, by decide⟩⟩
  policy := ⟨"request", requireMatch_eq_ok.mpr ⟨rfl, by decide, by decide⟩⟩
  time := requireTimestamp_eq_ok.mpr ⟨rfl, validText_sampleTime⟩

/-- No items at all are refused as well. -/
theorem createFrom_empty : ¬∀ (sha256 : Sha256) self validUntil items,
    HeaderValid self validUntil →
      ((∃ error, createFrom sha256.hexdigest self items = .error error) ↔
        none ∈ items ∨ ¬((items.filterMap id).map (·.approvalId)).Nodup ∨
          ¬((items.filterMap id).map (·.approverId)).Nodup ∨
          ∃ record, some record ∈ items ∧ ¬InTime validUntil record) := by
  intro claim
  have refused : ∃ error, createFrom sampleDigest.hexdigest header [] = .error error :=
    (createFrom_eq_error sampleDigest header_valid).mpr (.inl rfl)
  have reasons := (claim sampleDigest header sampleTime [] header_valid).mp refused
  simp at reasons

end ApprovalEvidenceSet

end VoodooOne
