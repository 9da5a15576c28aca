import VoodooOne.Policy.Graph

/-!
# Text of policy decision graphs

A graph has a canonical text exactly when the strings and the numbers that it shows can be encoded.
-/

namespace VoodooOne

theorem toString_injective : Function.Injective (toString : Nat → String) := by
  intro left right same
  have digits : (Nat.repr left).toList = (Nat.repr right).toList := congrArg String.toList same
  rw [Nat.toList_repr, Nat.toList_repr] at digits
  have numbers := congrArg (Nat.ofDigitChars 10 · 0) digits
  simpa only [Nat.ofDigitChars_ten_toDigits] using numbers

/-- Numbered ids differ from their candidate and from each other. -/
theorem duplicateNodeId_numbering : UniqueNames.Numbering duplicateNodeId where
  ne_candidate candidate number same := by
    have empty := List.self_eq_append_right.mp same.symm
    rw [Text.ofString_append] at empty
    cases empty
  injective candidate left right same := by
    have suffixes := List.append_cancel_left same
    rw [Text.ofString_append, Text.ofString_append] at suffixes
    exact toString_injective (Text.ofString_injective (List.append_cancel_left suffixes))

theorem policyNodeId_eq (kind : String) (value : Option Text) :
    ∃ rest, policyNodeId kind value = .ofString kind ++ rest := by
  unfold policyNodeId
  split
  · rw [Text.ofString_append, List.append_assoc]
    exact ⟨_, rfl⟩
  · rw [Text.ofString_append]
    exact ⟨_, rfl⟩

theorem take_policyNodeId {kind : String} (long : 2 ≤ (Text.ofString kind).length)
    (value : Option Text) : (policyNodeId kind value).take 2 = (Text.ofString kind).take 2 := by
  obtain ⟨rest, same⟩ := policyNodeId_eq kind value
  rw [same, List.take_append_of_le_length long]

theorem map_zipWith_second {α β γ : Type} {join : α → β → γ} {read : γ → β}
    (reads : ∀ item name, read (join item name) = name) {items : List α} {names : List β}
    (length : names.length = items.length) : (List.zipWith join items names).map read = names := by
  induction items generalizing names with
  | nil => rw [List.length_eq_zero_iff.mp length, List.zipWith_nil_right, List.map_nil]
  | cons item items induction =>
      cases names with
      | nil => cases length
      | cons name names =>
          rw [List.zipWith_cons_cons, List.map_cons, reads, induction (Nat.succ.inj length)]

namespace PolicyDecisionSnapshot

variable (snapshot : PolicyDecisionSnapshot)

theorem baseIds_nodup : snapshot.baseIds.Nodup := by
  apply List.Nodup.of_map (List.take 2)
  simp only [baseIds, baseNodes, List.map_cons, List.map_nil, policyId]
  rw [take_policyNodeId (by decide), take_policyNodeId (by decide), take_policyNodeId (by decide),
    take_policyNodeId (by decide), take_policyNodeId (by decide)]
  decide

theorem ids_nodup : (snapshot.baseIds ++ snapshot.approvalIds ++ snapshot.evidenceIds).Nodup :=
  duplicateNodeId_numbering.assign_nodup
    (duplicateNodeId_numbering.assign_nodup snapshot.baseIds_nodup _) _

theorem length_approvalIds : snapshot.approvalIds.length = snapshot.sortedApprovals.length := by
  rw [approvalIds, UniqueNames.length_assign, List.length_map, List.length_zipIdx]

theorem length_evidenceIds : snapshot.evidenceIds.length = snapshot.evidenceReferences.length := by
  rw [evidenceIds, UniqueNames.length_assign, List.length_map]

theorem map_id_nodes : (snapshot.nodes.map (·.id)).Perm
    (snapshot.baseIds ++ snapshot.approvalIds ++ snapshot.evidenceIds) := by
  have approvals : snapshot.approvalNodes.map (·.id) = snapshot.approvalIds :=
    map_zipWith_second (fun _ _ => rfl) snapshot.length_approvalIds
  have evidence : snapshot.evidenceNodes.map (·.id) = snapshot.evidenceIds :=
    map_zipWith_second (fun _ _ => rfl) snapshot.length_evidenceIds
  have sorted := (List.perm_insertionSort (fun left right => nodeKey left ≤ nodeKey right)
    (snapshot.baseNodes ++ snapshot.approvalNodes ++ snapshot.evidenceNodes)).map (·.id)
  rw [List.map_append, List.map_append, approvals, evidence] at sorted
  exact sorted

theorem nodes_nodup : (snapshot.nodes.map (·.id)).Nodup :=
  snapshot.map_id_nodes.nodup_iff.mpr snapshot.ids_nodup

theorem edges_closed : ∀ edge ∈ snapshot.edges,
    edge.source ∈ snapshot.nodes.map (·.id) ∧ edge.target ∈ snapshot.nodes.map (·.id) := by
  have shown {id : Text} : id ∈ snapshot.nodes.map (·.id) ↔
      id ∈ snapshot.baseIds ∨ id ∈ snapshot.approvalIds ∨ id ∈ snapshot.evidenceIds := by
    rw [snapshot.map_id_nodes.mem_iff, List.mem_append, List.mem_append, or_assoc]
  have request : policyNodeId "request" snapshot.requestId ∈ snapshot.baseIds := by
    simp [baseIds, baseNodes]
  have projection : policyNodeId "decision" snapshot.requestId ∈ snapshot.baseIds := by
    simp [baseIds, baseNodes]
  intro edge member
  rw [edges, List.mem_insertionSort, List.mem_append, List.mem_append] at member
  rcases member with (base | approval) | evidence
  · have closed : ∀ edge ∈ snapshot.baseEdges,
        edge.source ∈ snapshot.baseIds ∧ edge.target ∈ snapshot.baseIds := by
      simp [baseEdges, baseIds, baseNodes]
    obtain ⟨source, target⟩ := closed edge base
    exact ⟨shown.mpr (.inl source), shown.mpr (.inl target)⟩
  · obtain ⟨id, named, rfl⟩ := List.mem_map.mp approval
    exact ⟨shown.mpr (.inr (.inl named)), shown.mpr (.inl request)⟩
  · have targets : snapshot.evidenceEdges.map (·.target) = snapshot.evidenceIds :=
      map_zipWith_second (fun _ _ => rfl) snapshot.length_evidenceIds
    have sources : ∀ edge ∈ snapshot.evidenceEdges,
        edge.source = policyNodeId "decision" snapshot.requestId := by
      intro edge member
      obtain ⟨index, within, rfl⟩ := List.mem_iff_getElem.mp member
      simp only [evidenceEdges, List.getElem_zipWith]
    have target : edge.target ∈ snapshot.evidenceIds :=
      targets ▸ List.mem_map_of_mem evidence
    exact ⟨shown.mpr (.inl (sources edge evidence ▸ projection)), shown.mpr (.inr (.inr target))⟩

end PolicyDecisionSnapshot

open TextUnit (Plain plain_append plain_ofString)

theorem TextValue.encodable_record {fields : List (String × TextValue)} :
    (record fields).Encodable ↔ ∀ field ∈ fields, field.2.Encodable := by
  rw [record, encodable_obj, List.forall_mem_map]
  simp only [plain_ofString, true_and]

theorem TextValue.encodable_optional {text : Option Text} :
    (optional text).Encodable ↔ ∀ value ∈ text, Plain value := by
  cases text with
  | none => simp [optional, Encodable, encode?]
  | some text => simp [optional, encodable_str]

theorem TextValue.encodable_bool (value : Bool) : (bool value).Encodable := rfl

theorem TextValue.encodable_flag (flag : Option Bool) : (flag.elim null bool).Encodable := by
  cases flag <;> rfl

theorem TextValue.encodable_texts {texts : List Text} :
    (arr (texts.map str)).Encodable ↔ ∀ text ∈ texts, Plain text := by
  rw [encodable_arr, List.forall_mem_map]
  simp only [encodable_str]

/-- An integer whose text is not too long. -/
def ShortInteger (value : Int) : Prop := (Nat.toDigits 10 value.natAbs).length ≤ maxDigits

theorem TextValue.encodable_int {value : Int} : (int value).Encodable ↔ ShortInteger value := by
  rw [Encodable, encode?, ShortInteger]
  split
  · next short => simp [short]
  · next long => simp [long]

structure SuppliedPolicyDecision.Encodable (policy : SuppliedPolicyDecision) : Prop where
  texts : ∀ text ∈ [policy.policyVersion, policy.profile, policy.decision,
    policy.authorizationMode] ++ policy.requiredPermissions ++ policy.reasonCodes, Plain text
  numbers : ShortInteger policy.requiredApprovals ∧ ShortInteger policy.distinctApproverIdentities

namespace PolicyDecisionSnapshot

/-- A snapshot whose strings have no surrogates, as far as its graph shows them. -/
structure Encodable (snapshot : PolicyDecisionSnapshot) : Prop where
  identifiers : ∀ value ∈ [snapshot.requestId, snapshot.requesterId, snapshot.workspaceId,
    snapshot.executionId, snapshot.receiptId], ∀ text ∈ value, ValidIdentifier text → Plain text
  facts : ∀ value ∈ [snapshot.workspaceEnvironment, snapshot.requestEnvironment, snapshot.risk,
    snapshot.adapter, snapshot.requestedCapability, snapshot.payloadSha256,
    snapshot.requestStatus], ∀ text ∈ value, Plain text
  permission : ∀ observation ∈ snapshot.permissionObservation,
    Plain observation.executionActorId ∧ Plain observation.permissionName
  policy : ∀ policy ∈ snapshot.policyDecision, policy.Encodable
  approvals : ∀ approval ∈ snapshot.approvals,
    Plain approval.approvalId ∧ Plain approval.approverId ∧ Plain approval.decision
  auditEvents : ∀ text ∈ snapshot.auditEventIds, ValidIdentifier text → Plain text

end PolicyDecisionSnapshot

theorem SuppliedPolicyDecision.encodable_toDict {policy : SuppliedPolicyDecision} :
    policy.toDict.Encodable ↔ policy.Encodable := by
  rw [toDict, TextValue.encodable_record]
  simp only [List.forall_mem_cons, TextValue.encodable_str, TextValue.encodable_int,
    TextValue.encodable_texts, TextValue.encodable_bool, List.not_mem_nil, false_implies,
    implies_true, true_and, and_true]
  constructor
  · rintro ⟨version, profile, decision, mode, required, permissions, distinct, codes⟩
    refine ⟨?_, required, distinct⟩
    simp only [List.forall_mem_append, List.forall_mem_cons, List.not_mem_nil, false_implies,
      implies_true, and_true]
    exact ⟨⟨⟨version, profile, decision, mode⟩, permissions⟩, codes⟩
  · rintro ⟨texts, required, distinct⟩
    simp only [List.forall_mem_append, List.forall_mem_cons, List.not_mem_nil, false_implies,
      implies_true, and_true] at texts
    obtain ⟨⟨⟨version, profile, decision, mode⟩, permissions⟩, codes⟩ := texts
    exact ⟨version, profile, decision, mode, required, permissions, distinct, codes⟩

theorem plain_policyNodeId {kind : String} {value : Option Text} :
    Plain (policyNodeId kind value) ↔ ∀ text ∈ value, ValidIdentifier text → Plain text := by
  unfold policyNodeId
  split
  · next text found =>
    obtain ⟨same, valid⟩ := Option.filter_eq_some_iff.mp found
    rw [plain_append, same]
    exact ⟨fun plain _ member _ => Option.some.inj member ▸ plain.2,
      fun plain => ⟨plain_ofString _, plain text rfl (of_decide_eq_true valid)⟩⟩
  · next missing =>
    refine ⟨fun _ text member valid => ?_, fun _ => plain_ofString _⟩
    exact absurd (decide_eq_true valid) (Option.filter_eq_none_iff.mp missing text member)

/-- Assigned ids can be encoded when their candidates can. -/
theorem plain_assign {used candidates : List Text} :
    (∀ id ∈ UniqueNames.assign duplicateNodeId used candidates, Plain id) ↔
      ∀ candidate ∈ candidates, Plain candidate := by
  have forms := UniqueNames.forall_assign duplicateNodeId_numbering used candidates
  generalize UniqueNames.assign duplicateNodeId used candidates = ids at forms
  induction forms with
  | nil => exact Iff.rfl
  | cons form forms induction =>
      rw [List.forall_mem_cons, List.forall_mem_cons]
      refine and_congr ?_ induction
      rcases form with rfl | ⟨number, rfl⟩
      · exact Iff.rfl
      · rw [duplicateNodeId, plain_append]
        exact and_iff_left (plain_ofString _)

namespace PolicyDecisionSnapshot

variable (snapshot : PolicyDecisionSnapshot)

def NodeEncodable (node : PolicyNode) : Prop := Plain node.id ∧ node.claims.Encodable

theorem baseNodes_encodable : (∀ node ∈ snapshot.baseNodes, NodeEncodable node) ↔
    (∀ value ∈ [snapshot.requestId, snapshot.requesterId, snapshot.workspaceId],
      ∀ text ∈ value, ValidIdentifier text → Plain text) ∧
    (∀ value ∈ [snapshot.workspaceEnvironment, snapshot.requestEnvironment, snapshot.risk,
      snapshot.adapter, snapshot.requestedCapability, snapshot.payloadSha256,
      snapshot.requestStatus], ∀ text ∈ value, Plain text) ∧
    (∀ observation ∈ snapshot.permissionObservation,
      Plain observation.executionActorId ∧ Plain observation.permissionName) ∧
    ∀ policy ∈ snapshot.policyDecision, policy.Encodable := by
  have permission : snapshot.permissionClaims.Encodable ↔
      ∀ observation ∈ snapshot.permissionObservation,
        Plain observation.executionActorId ∧ Plain observation.permissionName := by
    unfold permissionClaims
    cases snapshot.permissionObservation with
    | none => simp [TextValue.encodable_record]
    | some observation =>
        simp [TextValue.encodable_record, TextValue.encodable_str, TextValue.encodable_bool]
  have policy : (snapshot.policyDecision.elim (TextValue.record [])
      SuppliedPolicyDecision.toDict).Encodable ↔
        ∀ policy ∈ snapshot.policyDecision, policy.Encodable := by
    cases snapshot.policyDecision with
    | none => simp [TextValue.encodable_record]
    | some policy => simp [SuppliedPolicyDecision.encodable_toDict]
  have policyId : (∀ policy ∈ snapshot.policyDecision, policy.Encodable) →
      Plain snapshot.policyId := by
    intro encodable
    rw [PolicyDecisionSnapshot.policyId, plain_policyNodeId]
    intro text member _
    obtain ⟨policy, found, rfl⟩ := Option.mem_map.mp member
    exact (encodable policy found).texts _ List.mem_cons_self
  simp only [baseNodes, NodeEncodable, List.forall_mem_cons, plain_policyNodeId, plain_ofString,
    TextValue.encodable_record, TextValue.encodable_str, TextValue.encodable_optional,
    TextValue.encodable_flag, TextValue.encodable_bool, permission, policy, List.not_mem_nil,
    false_implies, implies_true, true_and, and_true]
  constructor
  · rintro ⟨requester, ⟨workspace, workspaceEnvironment⟩,
      ⟨request, adapter, capability, environment,
      payload, risk, status⟩, ⟨-, policy⟩, observation, -⟩
    exact ⟨⟨request, requester, workspace⟩, ⟨workspaceEnvironment, environment, risk, adapter,
      capability, payload, status⟩, observation, policy⟩
  · rintro ⟨⟨request, requester, workspace⟩, ⟨workspaceEnvironment, environment, risk, adapter,
      capability, payload, status⟩, observation, policy⟩
    exact ⟨requester, ⟨workspace, workspaceEnvironment⟩, ⟨request, adapter, capability, environment,
      payload, risk, status⟩, ⟨policyId policy, policy⟩, observation, request⟩

theorem plain_approvalCandidate {approval : ApprovalEvidence} {index : Nat}
    (plain : Plain approval.approvalId) : Plain (approvalCandidate approval index) := by
  unfold approvalCandidate
  split
  · exact plain_policyNodeId.mpr fun text same _ => Option.some.inj same ▸ plain
  · exact plain_ofString _

theorem approvalNodes_encodable : (∀ node ∈ snapshot.approvalNodes, NodeEncodable node) ↔
    ∀ approval ∈ snapshot.approvals,
      Plain approval.approvalId ∧ Plain approval.approverId ∧ Plain approval.decision := by
  have claims {approval : ApprovalEvidence} {id : Text} :
      (approvalNode approval id).claims.Encodable ↔ Plain approval.approvalId ∧
        Plain approval.approverId ∧ Plain approval.decision := by
    simp [approvalNode, TextValue.encodable_record, TextValue.encodable_str]
  have perm : snapshot.sortedApprovals.Perm snapshot.approvals := List.perm_insertionSort _ _
  have same := snapshot.length_approvalIds
  constructor
  · intro nodes approval member
    obtain ⟨index, within, rfl⟩ := List.mem_iff_getElem.mp (perm.mem_iff.mpr member)
    have node : approvalNode snapshot.sortedApprovals[index] snapshot.approvalIds[index] ∈
        snapshot.approvalNodes :=
      List.mem_iff_getElem.mpr ⟨index, by simp [approvalNodes, same, within],
        by simp [approvalNodes]⟩
    exact claims.mp (nodes _ node).2
  · intro approvals node member
    obtain ⟨index, within, rfl⟩ := List.mem_iff_getElem.mp member
    have ids : ∀ id ∈ snapshot.approvalIds, Plain id := by
      refine plain_assign.mpr (List.forall_mem_map.mpr ?_)
      rintro ⟨approval, index⟩ numbered
      have stored := List.fst_mem_of_mem_zipIdx numbered
      exact plain_approvalCandidate (approvals approval (perm.mem_iff.mp stored)).1
    simp only [approvalNodes, List.getElem_zipWith]
    exact ⟨ids _ (List.getElem_mem _), claims.mpr (approvals _ (perm.mem_iff.mp
      (List.getElem_mem _)))⟩

theorem optionalReference_encodable {kind type relation : String} {value : Option Text} :
    (∀ reference ∈ optionalReference kind type relation value,
      Plain reference.candidate ∧ reference.claims.Encodable) ↔
      ∀ text ∈ value, ValidIdentifier text → Plain text := by
  unfold optionalReference
  split
  · rw [List.forall_mem_singleton, plain_policyNodeId, TextValue.encodable_record]
    exact and_iff_left (List.forall_mem_nil _)
  · next missing =>
    exact ⟨fun _ text member valid => absurd ⟨text, member, valid⟩ missing,
      fun _ => List.forall_mem_nil _⟩

theorem evidenceReferences_encodable : (∀ reference ∈ snapshot.evidenceReferences,
    Plain reference.candidate ∧ reference.claims.Encodable) ↔
    (∀ text ∈ snapshot.executionId, ValidIdentifier text → Plain text) ∧
    (∀ text ∈ snapshot.receiptId, ValidIdentifier text → Plain text) ∧
    ∀ text ∈ snapshot.auditEventIds, ValidIdentifier text → Plain text := by
  have perm : snapshot.sortedAuditEventIds.Perm
      (snapshot.auditEventIds.filter fun value => ValidIdentifier value) :=
    List.perm_insertionSort _ _
  simp only [evidenceReferences, List.forall_mem_append, optionalReference_encodable,
    List.forall_mem_map, plain_policyNodeId, TextValue.encodable_record, List.forall_mem_singleton,
    TextValue.encodable_str, perm.mem_iff, List.mem_filter, decide_eq_true_eq, and_assoc]
  refine and_congr_right' (and_congr_right' ⟨fun shown text member valid => ?_, ?_⟩)
  · exact (shown text ⟨member, valid⟩).2
  · rintro plain text ⟨member, valid⟩
    exact ⟨fun other same _ => Option.some.inj same ▸ plain text member valid,
      plain text member valid⟩

theorem evidenceNodes_encodable : (∀ node ∈ snapshot.evidenceNodes, NodeEncodable node) ↔
    ∀ reference ∈ snapshot.evidenceReferences,
      Plain reference.candidate ∧ reference.claims.Encodable := by
  have same := snapshot.length_evidenceIds
  have ids : (∀ id ∈ snapshot.evidenceIds, Plain id) ↔
      ∀ reference ∈ snapshot.evidenceReferences, Plain reference.candidate := by
    rw [evidenceIds, plain_assign, List.forall_mem_map]
  have named : snapshot.evidenceNodes.map (·.id) = snapshot.evidenceIds :=
    map_zipWith_second (fun _ _ => rfl) same
  have claims : snapshot.evidenceNodes.map (·.claims) =
      snapshot.evidenceReferences.map (·.claims) := by
    apply List.ext_getElem
    · simp [evidenceNodes, same]
    · intro index _ _
      simp [evidenceNodes]
  simp only [NodeEncodable, forall_and]
  refine and_congr ?_ ?_
  · rw [← ids, ← named, List.forall_mem_map]
  · rw [← List.forall_mem_map (f := PolicyNode.claims) (P := TextValue.Encodable), claims,
      List.forall_mem_map]

theorem nodes_encodable : (∀ node ∈ snapshot.nodes, NodeEncodable node) ↔ snapshot.Encodable := by
  have perm : snapshot.nodes.Perm
      (snapshot.baseNodes ++ snapshot.approvalNodes ++ snapshot.evidenceNodes) :=
    List.perm_insertionSort _ _
  simp only [perm.mem_iff, List.forall_mem_append, baseNodes_encodable, approvalNodes_encodable,
    evidenceNodes_encodable, evidenceReferences_encodable]
  constructor
  · rintro ⟨⟨⟨ids, facts, permission, policy⟩, approvals⟩, execution, receipt, audit⟩
    refine ⟨?_, facts, permission, policy, approvals, audit⟩
    simp only [List.forall_mem_cons] at ids ⊢
    exact ⟨ids.1, ids.2.1, ids.2.2.1, execution, receipt, List.forall_mem_nil _⟩
  · rintro ⟨ids, facts, permission, policy, approvals, audit⟩
    simp only [List.forall_mem_cons] at ids
    refine ⟨⟨⟨?_, facts, permission, policy⟩, approvals⟩, ids.2.2.2.1, ids.2.2.2.2.1, audit⟩
    simp only [List.forall_mem_cons]
    exact ⟨ids.1, ids.2.1, ids.2.2.1, List.forall_mem_nil _⟩

end PolicyDecisionSnapshot

end VoodooOne
