import Mathlib.Data.List.Dedup
import VoodooOne.Library.Sorting
import VoodooOne.Policy.GraphText

/-!
# Policy decision graphs as projections

The projection of a snapshot is well formed, decides by the gates, and does not depend on the order
of approvals and audit events.  It fails only where its text cannot be encoded.
-/

namespace VoodooOne

@[simp] theorem PolicyDecisionSnapshot.reasonIf_eq_nil {condition : Prop} [Decidable condition]
    {reason : String} : reasonIf condition reason = [] ↔ ¬condition := by
  unfold reasonIf
  split <;> simp_all

/-- An approval that counts: valid, by someone other than the requester, and not a denial. -/
structure ApprovalEvidence.Counts (requesterId : Option Text) (approval : ApprovalEvidence) :
    Prop where
  approvalId : ValidIdentifier approval.approvalId
  approverId : ValidIdentifier approval.approverId
  decision : approval.decision = .ofString "APPROVED"
  independent : some approval.approverId ≠ requesterId

namespace PolicyDecisionSnapshot

structure GatesPass (snapshot : PolicyDecisionSnapshot) : Prop where
  identities : HasIdentifier snapshot.requestId ∧ HasIdentifier snapshot.requesterId ∧
    HasIdentifier snapshot.workspaceId ∧ HasIdentifier snapshot.adapter
  environment : Text.Among snapshot.requestEnvironment validEnvironments ∧
    snapshot.workspaceEnvironment = snapshot.requestEnvironment
  risk : Text.Among snapshot.risk validRisks
  payload : ∃ digest ∈ snapshot.payloadSha256, DigestPattern digest
  permission : ∃ observation ∈ snapshot.permissionObservation,
    ValidIdentifier observation.executionActorId ∧
      observation.permissionName = .ofString "execution.run" ∧ observation.granted = true
  /-- The policy is the current one, and there are as many approvals as it asks for. -/
  policy : ∃ policy ∈ snapshot.policyDecision, ValidPolicyDecision policy ∧
    policy.decision = .ofString "ALLOW_AFTER_AUTHORIZATION" ∧
    (∀ environment ∈ snapshot.requestEnvironment, ∀ risk ∈ snapshot.risk,
      policy = currentPolicy environment risk) ∧
    policy.requiredApprovals ≤ snapshot.approvals.length ∧
    policy.distinctApproverIdentities ≤ (snapshot.approvals.map (·.approverId)).dedup.length
  approvals : ∀ approval ∈ snapshot.approvals, approval.Counts snapshot.requesterId
  approvalIds : (snapshot.approvals.map (·.approvalId)).Nodup
  status : snapshot.requestStatus = some (.ofString "APPROVED")
  emergencyStop : snapshot.emergencyStopActive = some false
  production : ∃ enabled ∈ snapshot.productionEffectsEnabled,
    snapshot.requestEnvironment = some (.ofString "production") → enabled = true

theorem among_some {text : Text} {words : List String} :
    Text.Among (some text) words ↔ ∃ word ∈ words, text = .ofString word := by
  rw [Text.Among, List.mem_map]
  exact ⟨fun ⟨word, member, same⟩ => ⟨word, member, (Option.some.inj same).symm⟩,
    fun ⟨word, member, same⟩ => ⟨word, member, congrArg some same.symm⟩⟩

theorem denied_ne_approved : Text.ofString "DENIED" ≠ Text.ofString "APPROVED" := by decide

/-- The loop over the approvals finds no reason when they all count and their ids differ. -/
theorem approvalReasons_eq_nil {requesterId : Option Text} {seen : List Text}
    {approvals : List ApprovalEvidence} : approvalReasons requesterId seen approvals = [] ↔
      (∀ approval ∈ approvals, approval.Counts requesterId) ∧ (approvals.map (·.approvalId)).Nodup ∧
        ∀ approval ∈ approvals, approval.approvalId ∉ seen := by
  induction approvals generalizing seen with
  | nil => simp [approvalReasons]
  | cons approval approvals induction =>
      simp only [approvalReasons, List.append_eq_nil_iff, reasonIf_eq_nil, not_not, induction,
        List.forall_mem_cons, List.map_cons, List.nodup_cons]
      constructor
      · rintro ⟨⟨⟨⟨valid, approver, among, fresh⟩, independent⟩, accepted⟩, others, distinct, later⟩
        rw [if_pos valid] at later
        have decision : approval.decision = .ofString "APPROVED" := by
          obtain ⟨word, member, same⟩ := among_some.mp among
          rcases List.mem_cons.mp member with rfl | member
          · exact same
          · obtain rfl := List.mem_singleton.mp member
            exact absurd same accepted
        refine ⟨⟨⟨valid, approver, decision, independent⟩, others⟩, ⟨?_, distinct⟩, fresh, ?_⟩
        · intro member
          obtain ⟨other, otherMember, same⟩ := List.mem_map.mp member
          exact later other otherMember (same ▸ List.mem_cons_self)
        · exact fun other member old => later other member (List.mem_cons_of_mem _ old)
      · rintro ⟨⟨counts, others⟩, ⟨unique, distinct⟩, fresh, later⟩
        rw [if_pos counts.approvalId]
        refine ⟨⟨⟨⟨counts.approvalId, counts.approverId, ?_, fresh⟩, counts.independent⟩, ?_⟩,
          others, distinct, ?_⟩
        · exact among_some.mpr ⟨_, List.mem_cons_self, counts.decision⟩
        · rw [counts.decision]
          exact denied_ne_approved.symm
        · intro other member old
          rcases List.mem_cons.mp old with same | old
          · exact unique (same ▸ List.mem_map_of_mem member)
          · exact later other member old

theorem approvedOnes_of_counts {requesterId : Option Text} {approvals : List ApprovalEvidence}
    (counts : ∀ approval ∈ approvals, approval.Counts requesterId) :
    approvedOnes approvals = approvals ∧
      approvedIdentities approvals = (approvals.map (·.approverId)).dedup := by
  have all : approvedOnes approvals = approvals := List.filter_eq_self.mpr fun approval member =>
    decide_eq_true (counts approval member).decision
  refine ⟨all, ?_⟩
  rw [approvedIdentities, all, List.filter_eq_self.mpr]
  intro text member
  obtain ⟨approval, approvalMember, rfl⟩ := List.mem_map.mp member
  exact decide_eq_true (counts approval approvalMember).approverId

variable (snapshot : PolicyDecisionSnapshot)

theorem sortedApprovals_perm : snapshot.sortedApprovals.Perm snapshot.approvals :=
  List.perm_insertionSort _ _

theorem permissionReasons_eq_nil : snapshot.permissionReasons = [] ↔
    ∃ observation ∈ snapshot.permissionObservation,
      ValidIdentifier observation.executionActorId ∧
        observation.permissionName = .ofString "execution.run" ∧ observation.granted = true := by
  have plain : ValidIdentifier (.ofString "execution.run") := by decide
  unfold permissionReasons
  cases snapshot.permissionObservation with
  | none => simp
  | some observation =>
      simp only [List.append_eq_nil_iff, reasonIf_eq_nil, not_not, Option.mem_def,
        Option.some.injEq, exists_eq_left', Bool.not_eq_false]
      constructor
      · rintro ⟨⟨actor, name⟩, granted⟩
        split at name
        · cases name
        · exact ⟨actor, not_not.mp (reasonIf_eq_nil.mp name), granted⟩
      · rintro ⟨actor, name, granted⟩
        rw [if_neg (not_not.mpr (name ▸ plain)), reasonIf_eq_nil]
        exact ⟨⟨actor, not_not.mpr name⟩, granted⟩

theorem environmentReasons_eq_nil : (¬¬Text.Among snapshot.workspaceEnvironment validEnvironments ∧
    ¬¬Text.Among snapshot.requestEnvironment validEnvironments ∧
    ¬(Text.Among snapshot.workspaceEnvironment validEnvironments ∧
      Text.Among snapshot.requestEnvironment validEnvironments ∧
      snapshot.workspaceEnvironment ≠ snapshot.requestEnvironment)) ↔
    Text.Among snapshot.requestEnvironment validEnvironments ∧
      snapshot.workspaceEnvironment = snapshot.requestEnvironment := by
  constructor
  · rintro ⟨workspace, request, mismatch⟩
    refine ⟨not_not.mp request, ?_⟩
    by_contra different
    exact mismatch ⟨not_not.mp workspace, not_not.mp request, different⟩
  · rintro ⟨request, same⟩
    exact ⟨not_not.mpr (same ▸ request), not_not.mpr request, fun mismatch => mismatch.2.2 same⟩

/-- The reasons about the policy and about the number of approvals, when the approvals count and
environment and risk are known. -/
theorem policyReasons_eq_nil
    (environment : Text.Among snapshot.requestEnvironment validEnvironments)
    (risk : Text.Among snapshot.risk validRisks)
    (counts : ∀ approval ∈ snapshot.approvals, approval.Counts snapshot.requesterId) :
    snapshot.policyReasons = [] ∧ snapshot.countReasons = [] ↔
      ∃ policy ∈ snapshot.policyDecision, ValidPolicyDecision policy ∧
        policy.decision = .ofString "ALLOW_AFTER_AUTHORIZATION" ∧
        (∀ environment ∈ snapshot.requestEnvironment, ∀ risk ∈ snapshot.risk,
          policy = currentPolicy environment risk) ∧
        policy.requiredApprovals ≤ snapshot.approvals.length ∧
        policy.distinctApproverIdentities ≤
          (snapshot.approvals.map (·.approverId)).dedup.length := by
  have perm := snapshot.sortedApprovals_perm
  obtain ⟨ones, identities⟩ := approvedOnes_of_counts fun approval member =>
    counts approval (perm.mem_iff.mp member)
  have distinct := (List.Perm.dedup (perm.map ApprovalEvidence.approverId)).length_eq
  unfold policyReasons countReasons
  cases snapshot.policyDecision with
  | none => simp
  | some policy =>
      obtain ⟨environmentText, environmentSome⟩ : ∃ text, snapshot.requestEnvironment =
        some text := by
        obtain ⟨word, -, same⟩ := List.mem_map.mp environment
        exact ⟨_, same.symm⟩
      obtain ⟨riskText, riskSome⟩ : ∃ text, snapshot.risk = some text := by
        obtain ⟨word, -, same⟩ := List.mem_map.mp risk
        exact ⟨_, same.symm⟩
      rw [environmentSome] at environment
      rw [riskSome] at risk
      by_cases valid : ValidPolicyDecision policy
      · have filtered : (some policy).filter (fun policy => ValidPolicyDecision policy) =
            some policy := by rw [Option.filter_some, if_pos (decide_eq_true valid)]
        rw [filtered, environmentSome, riskSome]
        dsimp only
        rw [if_neg (not_not.mpr valid)]
        simp only [List.append_eq_nil_iff, reasonIf_eq_nil, ones, identities, distinct,
          perm.length_eq, not_lt, not_not, ne_eq]
        constructor
        · rintro ⟨⟨allowed, current⟩, enough, several⟩
          refine ⟨policy, rfl, valid, allowed, ?_, enough, several⟩
          rintro _ ⟨rfl⟩ _ ⟨rfl⟩
          by_contra other
          exact current ⟨environment, risk, other⟩
        · rintro ⟨_, ⟨rfl⟩, -, allowed, current, enough, several⟩
          exact ⟨⟨allowed, fun mismatch => mismatch.2.2 (current _ rfl _ rfl)⟩, enough, several⟩
      · dsimp only
        rw [if_pos valid]
        constructor
        · rintro ⟨found, -⟩
          cases found
        · rintro ⟨_, ⟨rfl⟩, held, -⟩
          exact absurd held valid

theorem statusReasons_eq_nil : snapshot.statusReasons = [] ↔
    snapshot.requestStatus = some (.ofString "APPROVED") := by
  have known : Text.Among (some (.ofString "APPROVED")) validRequestStatuses := by decide
  unfold statusReasons
  constructor
  · intro none
    split at none
    · cases none
    · exact not_not.mp (reasonIf_eq_nil.mp none)
  · intro approved
    rw [approved, if_neg (not_not.mpr known), reasonIf_eq_nil]
    exact not_not.mpr rfl

theorem emergencyReasons_eq_nil : snapshot.emergencyReasons = [] ↔
    snapshot.emergencyStopActive = some false := by
  unfold emergencyReasons
  cases snapshot.emergencyStopActive with
  | none => simp
  | some active => simp

theorem productionReasons_eq_nil : snapshot.productionReasons = [] ↔
    ∃ enabled ∈ snapshot.productionEffectsEnabled,
      snapshot.requestEnvironment = some (.ofString "production") → enabled = true := by
  unfold productionReasons
  cases snapshot.productionEffectsEnabled with
  | none => simp
  | some enabled => simp

/-- No reason is found exactly when every gate passes. -/
theorem projectionReasons_eq_nil : snapshot.projectionReasons = [] ↔ snapshot.GatesPass := by
  have perm := snapshot.sortedApprovals_perm
  have loop : approvalReasons snapshot.requesterId [] snapshot.sortedApprovals = [] ↔
      (∀ approval ∈ snapshot.approvals, approval.Counts snapshot.requesterId) ∧
        (snapshot.approvals.map (·.approvalId)).Nodup := by
    rw [approvalReasons_eq_nil, (perm.map _).nodup_iff]
    simp only [perm.mem_iff, List.not_mem_nil, not_false_eq_true, implies_true, and_true]
  simp only [projectionReasons, List.append_eq_nil_iff, reasonIf_eq_nil, permissionReasons_eq_nil,
    loop, statusReasons_eq_nil, emergencyReasons_eq_nil, productionReasons_eq_nil]
  constructor
  · rintro ⟨⟨⟨⟨⟨⟨⟨⟨⟨⟨⟨⟨identities, workspace⟩, request⟩, mismatch⟩, risk⟩, payload⟩, permission⟩,
      policy⟩, counts, distinct⟩, count⟩, status⟩, emergency⟩, production⟩
    have environment := snapshot.environmentReasons_eq_nil.mp ⟨workspace, request, mismatch⟩
    have decided := (snapshot.policyReasons_eq_nil environment.1 (not_not.mp risk) counts).mp
      ⟨policy, count⟩
    exact ⟨not_not.mp identities, environment, not_not.mp risk, not_not.mp payload, permission,
      decided, counts, distinct, status, emergency, production⟩
  · intro gates
    obtain ⟨workspace, request, mismatch⟩ := snapshot.environmentReasons_eq_nil.mpr
      gates.environment
    obtain ⟨policy, count⟩ :=
      (snapshot.policyReasons_eq_nil gates.environment.1 gates.risk gates.approvals).mpr
        gates.policy
    exact ⟨⟨⟨⟨⟨⟨⟨⟨⟨⟨⟨⟨not_not.mpr gates.identities, workspace⟩, request⟩, mismatch⟩,
      not_not.mpr gates.risk⟩, not_not.mpr gates.payload⟩, gates.permission⟩, policy⟩,
      gates.approvals, gates.approvalIds⟩, count⟩, gates.status⟩, gates.emergencyStop⟩,
      gates.production⟩

theorem approvalKey_injective : Function.Injective approvalKey := by
  intro left right same
  have keys := toLex.injective same
  obtain ⟨id, rest⟩ := Prod.mk.inj keys
  obtain ⟨approver, decision⟩ := Prod.mk.inj (toLex.injective rest)
  cases left
  cases right
  rw [ApprovalEvidence.mk.injEq]
  exact ⟨Text.key_injective id, Text.key_injective approver, Text.key_injective decision⟩

variable (snapshot : PolicyDecisionSnapshot)

def reordered (approvals : List ApprovalEvidence) (auditEventIds : List Text) :
    PolicyDecisionSnapshot := { snapshot with approvals, auditEventIds }

/-- The projection does not depend on the order of approvals and of audit events. -/
theorem project_reordered {approvals : List ApprovalEvidence} {auditEventIds : List Text}
    (approvalPerm : approvals.Perm snapshot.approvals)
    (auditPerm : auditEventIds.Perm snapshot.auditEventIds) (sha256 : String → String) :
    (snapshot.reordered approvals auditEventIds).project sha256 = snapshot.project sha256 := by
  have approvalsSorted : (snapshot.reordered approvals auditEventIds).sortedApprovals =
      snapshot.sortedApprovals := Sorting.insertionSort_eq_of_perm approvalKey_injective
        approvalPerm
  have auditSorted : (snapshot.reordered approvals auditEventIds).sortedAuditEventIds =
      snapshot.sortedAuditEventIds :=
    Sorting.insertionSort_eq_of_perm Text.key_injective (auditPerm.filter _)
  have omits : (snapshot.reordered approvals auditEventIds).OmitsReference ↔
      snapshot.OmitsReference := by
    refine or_congr Iff.rfl (or_congr Iff.rfl ?_)
    exact exists_congr fun value => and_congr_left' auditPerm.mem_iff
  have references : (snapshot.reordered approvals auditEventIds).evidenceReferences =
      snapshot.evidenceReferences := by
    rw [evidenceReferences, auditSorted]
    rfl
  have approvalIds : (snapshot.reordered approvals auditEventIds).approvalIds =
      snapshot.approvalIds := by
    rw [PolicyDecisionSnapshot.approvalIds, approvalsSorted]
    rfl
  have evidenceIds : (snapshot.reordered approvals auditEventIds).evidenceIds =
      snapshot.evidenceIds := by
    rw [PolicyDecisionSnapshot.evidenceIds, references, approvalIds]
    rfl
  have nodes : (snapshot.reordered approvals auditEventIds).nodes = snapshot.nodes := by
    rw [PolicyDecisionSnapshot.nodes, approvalNodes, evidenceNodes, approvalsSorted, references,
      approvalIds, evidenceIds]
    rfl
  have edges : (snapshot.reordered approvals auditEventIds).edges = snapshot.edges := by
    rw [PolicyDecisionSnapshot.edges, approvalEdges, evidenceEdges, references, approvalIds,
      evidenceIds]
    rfl
  have reasons : (snapshot.reordered approvals auditEventIds).projectionReasons =
      snapshot.projectionReasons := by
    rw [projectionReasons, countReasons, approvalsSorted]
    rfl
  have limitations : (snapshot.reordered approvals auditEventIds).limitations =
      snapshot.limitations := by
    simp only [PolicyDecisionSnapshot.limitations, reasonIf, omits]
  have decision : (snapshot.reordered approvals auditEventIds).decision = snapshot.decision := by
    simp only [PolicyDecisionSnapshot.decision, ExecutionEligible, reasons]
  have reasonCodes : (snapshot.reordered approvals auditEventIds).reasonCodes =
      snapshot.reasonCodes := by
    simp only [PolicyDecisionSnapshot.reasonCodes, ExecutionEligible, reasons]
    rfl
  simp only [project, graph, toValue, nodes, edges, limitations, decision, reasonCodes,
    ExecutionEligible, reasons]

theorem toValue_encodable : snapshot.toValue.Encodable ↔ snapshot.Encodable := by
  have version : ShortInteger 1 := by
    unfold ShortInteger
    decide
  have limitations : ∀ text ∈ snapshot.limitations, TextUnit.Plain text := by
    intro text member
    rw [PolicyDecisionSnapshot.limitations, Text.sorted, List.mem_insertionSort] at member
    obtain ⟨code, -, rfl⟩ := List.mem_map.mp member
    exact TextUnit.plain_ofString code
  have codes : snapshot.Encodable → ∀ text ∈ snapshot.reasonCodes, TextUnit.Plain text := by
    intro encodable text member
    rw [PolicyDecisionSnapshot.reasonCodes, Text.sorted, List.mem_insertionSort,
      List.mem_append] at member
    rcases member with ofPolicy | found
    · rw [policyReasonCodes] at ofPolicy
      cases found : snapshot.policyDecision.filter fun policy => ValidPolicyDecision policy with
      | none =>
          rw [found] at ofPolicy
          cases ofPolicy
      | some policy =>
          rw [found] at ofPolicy
          obtain ⟨supplied, -⟩ := Option.filter_eq_some_iff.mp found
          exact (encodable.policy policy supplied).texts text (List.mem_append_right _ ofPolicy)
    · obtain ⟨code, -, rfl⟩ := List.mem_map.mp found
      exact TextUnit.plain_ofString code
  have edges : (∀ node ∈ snapshot.nodes, NodeEncodable node) → ∀ edge ∈ snapshot.edges,
      TextUnit.Plain edge.source ∧ TextUnit.Plain edge.target := by
    intro nodes edge member
    have ids : ∀ id ∈ snapshot.nodes.map (·.id), TextUnit.Plain id :=
      List.forall_mem_map.mpr fun node member => (nodes node member).1
    obtain ⟨source, target⟩ := snapshot.edges_closed edge member
    exact ⟨ids _ source, ids _ target⟩
  rw [← nodes_encodable] at codes ⊢
  simp only [toValue, TextValue.encodable_record, List.forall_mem_cons, TextValue.encodable_str,
    TextUnit.plain_ofString, TextValue.encodable_int, TextValue.encodable_bool,
    TextValue.encodable_arr, List.forall_mem_map, List.not_mem_nil,
    false_implies, implies_true, true_and, and_true, version]
  exact ⟨fun shown => shown.2.2.1, fun nodes => ⟨codes nodes, limitations, nodes, edges nodes⟩⟩

/-- The snapshot is projected to a well-formed graph that decides by the gates, whatever the order
of approvals and audit events. -/
structure WellFormed (sha256 : String → String) : Prop where
  built : ∃ graph, snapshot.project sha256 = .ok graph ∧ (graph.nodes.map (·.id)).Nodup ∧
    (∀ edge ∈ graph.edges, edge.source ∈ graph.nodes.map (·.id) ∧
      edge.target ∈ graph.nodes.map (·.id)) ∧
    (graph.decision = "ALLOW" ↔ snapshot.GatesPass)
  orderless : ∀ approvals auditEventIds, approvals.Perm snapshot.approvals →
    auditEventIds.Perm snapshot.auditEventIds →
    (snapshot.reordered approvals auditEventIds).project sha256 = snapshot.project sha256

theorem decision_eq_allow : snapshot.decision = "ALLOW" ↔ snapshot.GatesPass := by
  rw [← projectionReasons_eq_nil, PolicyDecisionSnapshot.decision]
  split
  · next eligible => exact iff_of_true rfl eligible
  · next refused => exact iff_of_false (by decide) refused

end PolicyDecisionSnapshot

/-- The projection is well formed exactly when the strings that it shows can be encoded. -/
theorem policyGraph_wellFormed_iff (sha256 : String → String) (snapshot : PolicyDecisionSnapshot) :
    snapshot.WellFormed sha256 ↔ snapshot.Encodable := by
  rw [← snapshot.toValue_encodable]
  constructor
  · rintro ⟨⟨graph, built, -⟩, -⟩
    simp only [PolicyDecisionSnapshot.project, bind_eq_ok, orRaise_eq_ok] at built
    obtain ⟨_, _, document, encoded, -⟩ := built
    exact Option.isSome_of_eq_some encoded
  · intro encodable
    obtain ⟨document, encoded⟩ := Option.isSome_iff_exists.mp encodable
    have built : snapshot.project sha256 = .ok (snapshot.graph sha256 document) := by
      simp only [PolicyDecisionSnapshot.project, bind_eq_ok, raiseIf_eq_ok, orRaise_eq_ok,
        pure_eq_ok]
      exact ⟨(), not_not.mpr snapshot.nodes_nodup, document, encoded, rfl⟩
    have decides : (snapshot.graph sha256 document).decision = snapshot.decision := by
      rw [PolicyDecisionSnapshot.graph]
    refine ⟨⟨_, built, snapshot.nodes_nodup, snapshot.edges_closed,
      decides ▸ snapshot.decision_eq_allow⟩, ?_⟩
    intro approvals auditEventIds approvalPerm auditPerm
    exact snapshot.project_reordered approvalPerm auditPerm sha256

/-- A snapshot with an approval whose id is half of a surrogate pair. -/
def unencodableSnapshot : PolicyDecisionSnapshot where
  requestId := none
  requesterId := none
  workspaceId := none
  workspaceEnvironment := none
  requestEnvironment := none
  risk := none
  adapter := none
  requestedCapability := none
  payloadSha256 := none
  permissionObservation := none
  policyDecision := none
  approvals := [⟨[.surrogate 0], .ofString "usr_1", .ofString "APPROVED"⟩]
  requestStatus := none
  emergencyStopActive := none
  productionEffectsEnabled := none
  executionId := none
  receiptId := none
  auditEventIds := []

/-- The claim fails for an identifier with half a surrogate pair: no graph is built. -/
theorem policyGraph_unencodable : ¬∀ (sha256 : String → String) (snapshot : PolicyDecisionSnapshot),
    ∃ graph, snapshot.project sha256 = .ok graph := by
  intro built
  obtain ⟨graph, built⟩ := built id unencodableSnapshot
  simp only [PolicyDecisionSnapshot.project, bind_eq_ok, orRaise_eq_ok] at built
  obtain ⟨_, _, document, encoded, -⟩ := built
  have encodable := (unencodableSnapshot.toValue_encodable).mp (Option.isSome_of_eq_some encoded)
  exact (encodable.approvals _ (List.mem_singleton_self _)).1 0 (List.mem_singleton_self _)

end VoodooOne
