import VoodooOne.Change.Runs

/-!
# Reviews

A request that was authorized has enough approvals: by distinct reviewers other than the requester,
each of exactly the content that the request still has.
-/

namespace VoodooOne

/-- Whether a request with this status has passed its review. -/
def RequestStatus.authorized : RequestStatus → Bool
  | .approved => true
  | .running => true
  | .completed => true
  | .failed => true
  | _ => false

/-- What the approvals say about a request, given its status. -/
structure Reviewed (sha256 : String → String) (approvals : List ApprovalRow)
    (request : ChangeRequestRow) : Prop where
  /-- A draft has no review digest and no approvals. -/
  draft : request.status = .draft → request.reviewContentSha256 = none ∧
    ∀ approval ∈ approvals, approval.requestId ≠ request.id
  /-- A submitted request keeps the digest of its content. -/
  bound : request.status ≠ .draft → ∃ digest, request.reviewContentSha256 = some digest ∧
    reviewContentSha256 sha256 request = .ok digest
  /-- Reviewers are independent and reviewed that content. -/
  independent : ∀ approval ∈ approvals, approval.requestId = request.id →
    approval.approverId ≠ request.requestedBy ∧
      approval.reviewContentSha256 = request.reviewContentSha256
  /-- A request that was not denied has no denial. -/
  undenied : request.status ≠ .denied → ∀ approval ∈ approvals,
    approval.requestId = request.id → approval.decision = .approved
  /-- An authorized request has enough approvals. -/
  enough : request.status.authorized = true →
    currentRequiredApprovals request.environment ≤ (approvalsOf approvals request.id).length

namespace Reviewed

variable {sha256 : String → String} {approvals : List ApprovalRow} {request : ChangeRequestRow}

theorem of_draft (draft : request.status = .draft) (unbound : request.reviewContentSha256 = none)
    (none : ∀ approval ∈ approvals, approval.requestId ≠ request.id) :
    Reviewed sha256 approvals request where
  draft _ := ⟨unbound, none⟩
  bound submitted := absurd draft submitted
  independent approval member same := absurd same (none approval member)
  undenied _ approval member same := absurd same (none approval member)
  enough authorized := by
    rw [draft] at authorized
    cases authorized

theorem submit (reviewed : Reviewed sha256 approvals request) {digest : String} (now : String)
    (draft : request.status = .draft) (bound : reviewContentSha256 sha256 request = .ok digest) :
    Reviewed sha256 approvals (ChangeRequestService.markSubmitted digest now request) where
  draft still := by cases still
  bound _ := ⟨digest, rfl, bound⟩
  independent approval member same := absurd same ((reviewed.draft draft).2 approval member)
  undenied _ approval member same := absurd same ((reviewed.draft draft).2 approval member)
  enough authorized := by cases authorized

theorem advance (reviewed : Reviewed sha256 approvals request) {status : RequestStatus}
    (now : String) (authorized : request.status.authorized = true)
    (still : status.authorized = true) :
    Reviewed sha256 approvals (ChangeRequestService.setStatus status now request) where
  draft isDraft := by
    rw [show status = .draft from isDraft] at still
    cases still
  bound _ := reviewed.bound fun isDraft => by
    rw [isDraft] at authorized
    cases authorized
  independent := reviewed.independent
  undenied _ := reviewed.undenied fun isDenied => by
    rw [isDenied] at authorized
    cases authorized
  enough _ := reviewed.enough authorized

theorem append_other (reviewed : Reviewed sha256 approvals request) {approval : ApprovalRow}
    (other : approval.requestId ≠ request.id) :
    Reviewed sha256 (approvals ++ [approval]) request := by
  have old : ∀ found ∈ approvals ++ [approval], found.requestId = request.id →
      found ∈ approvals := by
    intro found member same
    rcases List.mem_append.mp member with kept | new
    · exact kept
    · obtain rfl := List.mem_singleton.mp new
      exact absurd same other
  have count : approvalsOf (approvals ++ [approval]) request.id =
      approvalsOf approvals request.id := by
    simp [approvalsOf, other]
  refine ⟨fun isDraft => ?_, reviewed.bound, fun found member same => ?_,
    fun notDenied found member same => ?_, fun authorized => ?_⟩
  · obtain ⟨unbound, none⟩ := reviewed.draft isDraft
    exact ⟨unbound, fun found member same => none found (old found member same) same⟩
  · exact reviewed.independent found (old found member same) same
  · exact reviewed.undenied notDenied found (old found member same) same
  · rw [count]
    exact reviewed.enough authorized

theorem decide (reviewed : Reviewed sha256 approvals request) {approval : ApprovalRow}
    {status : RequestStatus} (now : String) (awaiting : request.status = .reviewRequired)
    (independent : approval.approverId ≠ request.requestedBy)
    (bound : approval.reviewContentSha256 = request.reviewContentSha256)
    (verdict : Verdict (approvals ++ [approval]) request approval.decision status) :
    Reviewed sha256 (approvals ++ [approval])
      (ChangeRequestService.setStatus status now request) where
  draft isDraft := by
    rw [show status = .draft from isDraft] at verdict
    generalize approval.decision = decision at verdict
    cases verdict
  bound _ := reviewed.bound (by rw [awaiting]; decide)
  independent found member same := by
    rcases List.mem_append.mp member with kept | new
    · exact reviewed.independent found kept same
    · obtain rfl := List.mem_singleton.mp new
      exact ⟨independent, bound⟩
  undenied notDenied found member same := by
    rcases List.mem_append.mp member with kept | new
    · exact reviewed.undenied (by rw [awaiting]; decide) found kept same
    · obtain rfl := List.mem_singleton.mp new
      change status ≠ .denied at notDenied
      generalize found.decision = decision at verdict
      cases verdict with
      | denied => exact absurd rfl notDenied
      | enough => rfl
      | waiting => rfl
  enough authorized := by
    change status.authorized = true at authorized
    generalize approval.decision = decision at verdict
    cases verdict with
    | denied => cases authorized
    | enough count => exact count
    | waiting => cases authorized

end Reviewed

/-- Every request is reviewed as its status says. -/
structure ReviewInvariant (sha256 : String → String) (tables : LifecycleTables) : Prop where
  reviewed : ∀ request ∈ tables.requests, Reviewed sha256 tables.approvals request
  requested : ∀ approval ∈ tables.approvals, ∃ request ∈ tables.requests,
    request.id = approval.requestId
  /-- A reviewer decides a request once. -/
  once : Table.Keyed (fun approval => (approval.requestId, approval.approverId)) tables.approvals

namespace ReviewInvariant

variable {sha256 : String → String} {tables next : LifecycleTables}

theorem empty : ReviewInvariant sha256 ⟨[], [], [], []⟩ where
  reviewed _ member := by cases member
  requested _ member := by cases member
  once := Table.keyed_nil

theorem replace (invariant : ReviewInvariant sha256 tables) {request : ChangeRequestRow}
    (new : ChangeRequestRow) (member : request ∈ tables.requests) (same : new.id = request.id)
    (reviewed : Reviewed sha256 tables.approvals new) (executions : List ExecutionRow)
    (receipts : List ReceiptRow) :
    ReviewInvariant sha256
      ⟨Table.replace (·.id) tables.requests new, tables.approvals, executions, receipts⟩ where
  reviewed other otherMember := by
    rcases Table.mem_replace.mp otherMember with ⟨rfl, _⟩ | ⟨kept, _⟩
    · exact reviewed
    · exact invariant.reviewed other kept
  requested approval approvalMember := by
    obtain ⟨other, otherMember, identity⟩ := invariant.requested approval approvalMember
    by_cases matched : other.id = new.id
    · exact ⟨new, Table.mem_replace.mpr (.inl ⟨rfl, request, member, same.symm⟩),
        matched.symm.trans identity⟩
    · exact ⟨other, Table.mem_replace.mpr (.inr ⟨otherMember, matched⟩), identity⟩
  once := invariant.once

theorem create (invariant : ReviewInvariant sha256 tables) {request : ChangeRequestRow}
    (draft : request.status = .draft) (unbound : request.reviewContentSha256 = none)
    (fresh : ∀ other ∈ tables.requests, other.id ≠ request.id) :
    ReviewInvariant sha256 { tables with requests := tables.requests ++ [request] } where
  reviewed other otherMember := by
    rcases List.mem_append.mp otherMember with kept | new
    · exact invariant.reviewed other kept
    · obtain rfl := List.mem_singleton.mp new
      refine .of_draft draft unbound fun approval member same => ?_
      obtain ⟨its, itsMember, identity⟩ := invariant.requested approval member
      exact fresh its itsMember (identity.trans same)
  requested approval member := by
    obtain ⟨other, otherMember, identity⟩ := invariant.requested approval member
    exact ⟨other, List.mem_append_left _ otherMember, identity⟩
  once := invariant.once

theorem decide (invariant : ReviewInvariant sha256 tables) {request new : ChangeRequestRow}
    {approval : ApprovalRow} (member : request ∈ tables.requests) (same : new.id = request.id)
    (ofRequest : approval.requestId = request.id)
    (once : ∀ other ∈ tables.approvals,
      ¬(other.requestId = approval.requestId ∧ other.approverId = approval.approverId))
    (reviewed : Reviewed sha256 (tables.approvals ++ [approval]) new) :
    ReviewInvariant sha256 { tables with
      requests := Table.replace (·.id) tables.requests new
      approvals := tables.approvals ++ [approval] } where
  reviewed other otherMember := by
    rcases Table.mem_replace.mp otherMember with ⟨rfl, _⟩ | ⟨kept, different⟩
    · exact reviewed
    · refine (invariant.reviewed other kept).append_other fun matched => different ?_
      exact matched.symm.trans (ofRequest.trans same.symm)
  requested found foundMember := by
    have replaced : new ∈ Table.replace (·.id) tables.requests new :=
      Table.mem_replace.mpr (.inl ⟨rfl, request, member, same.symm⟩)
    rcases List.mem_append.mp foundMember with kept | last
    · obtain ⟨other, otherMember, identity⟩ := invariant.requested found kept
      by_cases matched : other.id = new.id
      · exact ⟨new, replaced, matched.symm.trans identity⟩
      · exact ⟨other, Table.mem_replace.mpr (.inr ⟨otherMember, matched⟩), identity⟩
    · obtain rfl := List.mem_singleton.mp last
      exact ⟨new, replaced, same.trans ofRequest.symm⟩
  once := by
    apply invariant.once.append
    intro other otherMember equal
    exact once other otherMember (Prod.mk.inj equal)

theorem step (invariant : ReviewInvariant sha256 tables) (lifecycle : LifecycleInvariant tables)
    (step : LifecycleStep sha256 tables next) : ReviewInvariant sha256 next := by
  cases step with
  | idle => exact invariant
  | created request draft unbound fresh => exact invariant.create draft unbound fresh
  | submitted request digest now found draft bound =>
      have member := (Table.mem_of_lookup found).1
      have reviewed := (invariant.reviewed request member).submit now draft bound
      exact invariant.replace (ChangeRequestService.markSubmitted digest now request) member rfl
        reviewed _ _
  | decided request approval status now found awaiting ofRequest independent bound once verdict =>
      have member := (Table.mem_of_lookup found).1
      have reviewed := (invariant.reviewed request member).decide now awaiting independent bound
        verdict
      exact invariant.decide member rfl ofRequest once reviewed
  | started request execution now found approved ofRequest running fresh =>
      have member := (Table.mem_of_lookup found).1
      have authorized : request.status.authorized = true := by rw [approved]; rfl
      have reviewed := (invariant.reviewed request member).advance now authorized
        (rfl : RequestStatus.running.authorized = true)
      exact invariant.replace (ChangeRequestService.setStatus .running now request) member rfl
        reviewed _ _
  | finished request execution finished receipt status now found foundExecution wasRunning
      ofRequest sameRequest terminal ofExecution sameStatus fresh =>
      have member := (Table.mem_of_lookup found).1
      have executionMember := (Table.mem_of_lookup foundExecution).1
      -- the request of a running execution is running, so it was authorized before
      have running := lifecycle.status_eq member executionMember ofRequest
      have authorized : request.status.authorized = true := by
        rw [running, wasRunning]
        rfl
      have still : status.authorized = true := by
        rcases terminal with ⟨_, rfl⟩ | ⟨_, rfl⟩ <;> rfl
      have reviewed := (invariant.reviewed request member).advance now authorized still
      exact invariant.replace (ChangeRequestService.setStatus status now request) member rfl
        reviewed _ _

end ReviewInvariant

/-- Submitted requests stay, with their content and digest. -/
def ContentKept (before after : LifecycleTables) : Prop :=
  ∀ request ∈ before.requests, request.reviewContentSha256 ≠ none → ∃ later ∈ after.requests,
    later.id = request.id ∧ later.content = request.content ∧
      later.reviewContentSha256 = request.reviewContentSha256

variable {request : ChangeRequestRow} {tables : LifecycleTables}

theorem ContentKept.replace (new : ChangeRequestRow) (keys : Table.Keyed (·.id) tables.requests)
    (member : request ∈ tables.requests) (same : new.id = request.id)
    (content : new.content = request.content)
    (digest : request.reviewContentSha256 ≠ none →
      new.reviewContentSha256 = request.reviewContentSha256)
    (approvals : List ApprovalRow) (executions : List ExecutionRow) (receipts : List ReceiptRow) :
    ContentKept tables
      ⟨Table.replace (·.id) tables.requests new, approvals, executions, receipts⟩ := by
  intro other otherMember submitted
  by_cases matched : other.id = new.id
  · obtain rfl := keys.unique otherMember member (matched.trans same)
    exact ⟨new, Table.mem_replace.mpr (.inl ⟨rfl, other, otherMember, matched⟩), same, content,
      digest submitted⟩
  · exact ⟨other, Table.mem_replace.mpr (.inr ⟨otherMember, matched⟩), rfl, rfl, rfl⟩

theorem ContentKept.setStatus (status : RequestStatus) (now : String)
    (keys : Table.Keyed (·.id) tables.requests)
    (found : Table.lookup (·.id) tables.requests request.id = some request)
    (approvals : List ApprovalRow) (executions : List ExecutionRow) (receipts : List ReceiptRow) :
    ContentKept tables ⟨Table.replace (·.id) tables.requests
      (ChangeRequestService.setStatus status now request), approvals, executions, receipts⟩ :=
  .replace (ChangeRequestService.setStatus status now request) keys (Table.mem_of_lookup found).1
    rfl rfl (fun _ => rfl) approvals executions receipts

theorem ContentKept.refl (tables : LifecycleTables) : ContentKept tables tables :=
  fun request member _ => ⟨request, member, rfl, rfl, rfl⟩

theorem ContentKept.trans {first second third : LifecycleTables}
    (early : ContentKept first second) (late : ContentKept second third) :
    ContentKept first third := by
  intro request member submitted
  obtain ⟨middle, middleMember, identity, content, digest⟩ := early request member submitted
  obtain ⟨last, lastMember, lastIdentity, lastContent, lastDigest⟩ :=
    late middle middleMember (digest ▸ submitted)
  exact ⟨last, lastMember, lastIdentity.trans identity, lastContent.trans content,
    lastDigest.trans digest⟩

theorem ReviewInvariant.contentKept {sha256 : String → String} {tables next : LifecycleTables}
    (invariant : ReviewInvariant sha256 tables) (lifecycle : LifecycleInvariant tables)
    (step : LifecycleStep sha256 tables next) : ContentKept tables next := by
  cases step with
  | idle => exact .refl _
  | created request draft unbound fresh =>
      intro other member _
      exact ⟨other, List.mem_append_left _ member, rfl, rfl, rfl⟩
  | submitted request digest now found draft bound =>
      have member := (Table.mem_of_lookup found).1
      have unbound := ((invariant.reviewed request member).draft draft).1
      exact .replace (ChangeRequestService.markSubmitted digest now request) lifecycle.requestKeys
        member rfl rfl (fun bound => absurd unbound bound) _ _ _
  | decided request approval status now found awaiting ofRequest independent bound once verdict =>
      exact .setStatus _ now lifecycle.requestKeys found _ _ _
  | started request execution now found approved ofRequest running fresh =>
      exact .setStatus _ now lifecycle.requestKeys found _ _ _
  | finished request execution finished receipt status now found foundExecution wasRunning
      ofRequest sameRequest terminal ofExecution sameStatus fresh =>
      exact .setStatus _ now lifecycle.requestKeys found _ _ _

structure Authorized (sha256 : String → String) (tables : LifecycleTables)
    (request : ChangeRequestRow) : Prop where
  /-- Enough approvals: two in production, otherwise one. -/
  enough : (if request.environment = "production" then 2 else 1) ≤
    (approvalsOf tables.approvals request.id).length
  /-- By distinct reviewers. -/
  distinct : ((approvalsOf tables.approvals request.id).map (·.approverId)).Nodup
  /-- None of them the requester, all of them of the stored digest. -/
  independent : ∀ approval ∈ tables.approvals, approval.requestId = request.id →
    approval.approverId ≠ request.requestedBy ∧
      approval.reviewContentSha256 = request.reviewContentSha256
  /-- The stored digest is that of the current content. -/
  bound : ∃ digest, request.reviewContentSha256 = some digest ∧
    reviewContentSha256 sha256 request = .ok digest
  /-- Nobody denied the request. -/
  undenied : ∀ approval ∈ tables.approvals, approval.requestId = request.id →
    approval.decision ≠ .denied

theorem ReviewInvariant.authorized {sha256 : String → String}
    (invariant : ReviewInvariant sha256 tables) (member : request ∈ tables.requests)
    (authorized : request.status.authorized = true) :
    Authorized sha256 tables request where
  enough := (invariant.reviewed request member).enough authorized
  distinct := by
    unfold approvalsOf
    refine List.Nodup.map_on ?_ (invariant.once.of_map.filter _)
    intro first firstMember second secondMember same
    simp only [List.mem_filter, decide_eq_true_eq] at firstMember secondMember
    refine invariant.once.unique firstMember.1 secondMember.1 ?_
    rw [firstMember.2.1, secondMember.2.1, same]
  independent := (invariant.reviewed request member).independent
  bound := (invariant.reviewed request member).bound fun isDraft => by
    rw [isDraft] at authorized
    cases authorized
  undenied approval approvalMember same denied := by
    have notDenied : request.status ≠ .denied := by
      intro isDenied
      rw [isDenied] at authorized
      cases authorized
    have approved := (invariant.reviewed request member).undenied notDenied approval approvalMember
      same
    rw [approved] at denied
    cases denied

/-- What every call keeps about reviews. -/
structure ReviewedWorld (sha256 : String → String) (world : ChangeWorld) : Prop where
  change : ChangeInvariant world
  review : ReviewInvariant sha256 world.db.lifecycle

namespace ReviewedWorld

variable {sha256 : String → String} {world : ChangeWorld}

theorem start (store : Database) : ReviewedWorld sha256 (ChangeWorld.start store) :=
  ⟨.start store, .empty⟩

theorem step (held : ReviewedWorld sha256 world) (call : ChangeCall) :
    ReviewedWorld sha256 (world.step sha256 call) :=
  ⟨held.change.step sha256 call,
    held.review.step held.change.tables (ChangeWorld.step_cases sha256 held.change call).1⟩

theorem run (held : ReviewedWorld sha256 world) (calls : List ChangeCall) :
    ReviewedWorld sha256 (Transaction.run (ChangeWorld.step sha256) world calls) :=
  Transaction.run_invariant (fun _ call held => held.step call) held calls

theorem contentKept (held : ReviewedWorld sha256 world) (calls : List ChangeCall) :
    ContentKept world.db.lifecycle
      (Transaction.run (ChangeWorld.step sha256) world calls).db.lifecycle :=
  Transaction.run_relation
    (fun before after : ChangeWorld => ContentKept before.db.lifecycle after.db.lifecycle)
    (fun _ call held => held.step call) (fun world => .refl world.db.lifecycle) ContentKept.trans
    (fun _ call held => held.review.contentKept held.change.tables
      (ChangeWorld.step_cases sha256 held.change call).1) held calls

end ReviewedWorld

/-- The approval state machine over whole runs: what an authorized request rests on, and that the
reviewed content never changes after submission. -/
theorem approvals_authorize (sha256 : String → String) (store : Database)
    (calls later : List ChangeCall) :
    let world := Transaction.run (ChangeWorld.step sha256) (ChangeWorld.start store) calls
    let after := Transaction.run (ChangeWorld.step sha256) world later
    (∀ request ∈ world.db.changeRequests,
      request.status ∈ [RequestStatus.approved, .running, .completed, .failed] →
        Authorized sha256 world.db.lifecycle request) ∧
      ContentKept world.db.lifecycle after.db.lifecycle ∧
      ∀ request ∈ world.db.changeRequests,
        request.reviewContentSha256 ≠ none ↔ request.status ≠ .draft := by
  intro world after
  have held : ReviewedWorld sha256 world := (ReviewedWorld.start store).run calls
  refine ⟨fun request member status => ?_, held.contentKept later, fun request member => ?_⟩
  · apply held.review.authorized member
    simp only [List.mem_cons, List.not_mem_nil, or_false] at status
    rcases status with status | status | status | status <;> rw [status] <;> rfl
  · have reviewed := held.review.reviewed request member
    constructor
    · exact fun submitted isDraft => submitted (reviewed.draft isDraft).1
    · intro submitted
      obtain ⟨digest, isDigest, _⟩ := reviewed.bound submitted
      rw [isDigest]
      exact Option.some_ne_none digest

end VoodooOne
