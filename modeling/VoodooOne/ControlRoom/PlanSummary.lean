import Mathlib.Data.NNRat.Defs
import VoodooOne.Foundation.Exceptions
import VoodooOne.Library.FirstMatch

/-!
# Plan summary

The control room lists change requests together with what the first approval of each requires.  An
approval is looked up in an index; where a row does not fit the index, the approvals are scanned.
-/

namespace VoodooOne

/-- A floating-point number, other than NaN. -/
inductive FloatValue where
  | finite (negative : Bool) (magnitude : ℚ≥0)
  | infinite (negative : Bool)
deriving DecidableEq

inductive RowValue where
  | none
  | bool (value : Bool)
  | int (value : Int)
  | float (value : FloatValue)
  | str (text : String)
  | list (items : List RowValue)
  | dict (fields : List (String × RowValue))

/-- What a hashable value is compared by: numbers are equal across their types. -/
inductive Scalar where
  | none
  | number (value : ℚ)
  | infinite (negative : Bool)
  | str (text : String)
deriving DecidableEq

namespace RowValue

def floatScalar : FloatValue → Scalar
  | .finite negative magnitude => .number (if negative then -magnitude else magnitude)
  | .infinite negative => .infinite negative

/-- What a hashable value is compared by; lists and dictionaries are not hashable. -/
def scalar? : RowValue → Option Scalar
  | .none => some .none
  | .bool value => some (.number (if value then 1 else 0))
  | .int value => some (.number value)
  | .float value => some (floatScalar value)
  | .str text => some (.str text)
  | .list _ => Option.none
  | .dict _ => Option.none

mutual

/-- `==`. -/
def equals : RowValue → RowValue → Bool
  | .list left, .list right => equalsItems left right
  | .dict left, .dict right => left.length == right.length && equalsFields left right
  | left, right => match left.scalar?, right.scalar? with
      | some first, some second => first == second
      | _, _ => false

/-- `==` of lists. -/
def equalsItems : List RowValue → List RowValue → Bool
  | [], [] => true
  | left :: lefts, right :: rights => equals left right && equalsItems lefts rights
  | _, _ => false

/-- Whether the other dictionary has equal values under the keys of this one. -/
def equalsFields : List (String × RowValue) → List (String × RowValue) → Bool
  | [], _ => true
  | (key, value) :: fields, others =>
      (match others.lookup key with
        | some other => equals value other
        | Option.none => false) && equalsFields fields others

end

theorem equals_of_scalar {left right : RowValue} {first second : Scalar}
    (leftScalar : left.scalar? = some first) (rightScalar : right.scalar? = some second) :
    left.equals right = (first == second) := by
  cases left <;> cases right <;> simp_all [equals, scalar?]

end RowValue

/-- A row: a mapping of names to values. -/
abbrev PresentationRow := List (String × RowValue)

namespace PresentationRow

/-- `row[key]`. -/
def item (row : PresentationRow) (key : String) : Except Raised RowValue :=
  orRaise ⟨.keyError, key⟩ (row.lookup key)

/-- `row.get(key, default)`. -/
def getD (row : PresentationRow) (key : String) (default : RowValue) : RowValue :=
  (row.lookup key).getD default

end PresentationRow

/-- `rows[:limit]`; a negative limit counts from the end. -/
def firstRows (limit : Int) (rows : List PresentationRow) : List PresentationRow :=
  rows.take (if 0 ≤ limit then limit else rows.length + limit).toNat

/-- `first_approval_by_request`. -/
abbrev ApprovalIndex := List (Scalar × PresentationRow)

/-- `hash`. -/
def hashed (value : RowValue) : Except Raised Scalar :=
  orRaise ⟨.typeError, "unhashable type"⟩ value.scalar?

def fillIndex : ApprovalIndex → List PresentationRow → Except Raised ApprovalIndex
  | index, [] => .ok index
  | index, approval :: approvals => do
      let requestId ← approval.item "request_id"
      let key ← hashed requestId
      fillIndex (FirstMatch.setDefault index key approval) approvals

/-- The index of the approvals, unless a row of theirs does not fit it. -/
def indexed (approvals : List PresentationRow) : Except Raised (Option ApprovalIndex) :=
  match fillIndex [] approvals with
  | .ok index => .ok (some index)
  | .error error =>
      if [ExceptionClass.keyError, .typeError].any error.cls.isA then .ok none else .error error

/-- The first approval whose `request_id` equals the `id` of the request. -/
def scanned (request : PresentationRow) :
    List PresentationRow → Except Raised (Option PresentationRow)
  | [] => .ok none
  | approval :: approvals => do
      let requestId ← approval.item "request_id"
      let id ← request.item "id"
      if requestId.equals id then .ok (some approval) else scanned request approvals

def presentedApproval (index : Option ApprovalIndex) (approvals : List PresentationRow)
    (request : PresentationRow) : Except Raised (Option PresentationRow) :=
  match index with
  | some index => do
      let id ← request.item "id"
      match id.scalar? with
      | some key => .ok (index.lookup key)
      | none => scanned request approvals
  | none => scanned request approvals

structure PlanItem where
  (requestId title status risk environment requestedBy approvalCount : RowValue)
  (approvalRequired updatedAt : RowValue)

structure PlanSummary where
  items : List PlanItem
  pendingApprovals : Nat

/-- `approval.get("required_count", 1) if approval else 1`. -/
def approvalRequired : Option PresentationRow → RowValue
  | some (entry :: entries) => PresentationRow.getD (entry :: entries) "required_count" (.int 1)
  | _ => .int 1

def planItem (request : PresentationRow) (approval : Option PresentationRow) :
    Except Raised PlanItem := do
  let requestId ← request.item "id"
  let title ← request.item "title"
  let status ← request.item "status"
  let risk ← request.item "risk"
  let environment ← request.item "environment"
  let requestedBy ← request.item "requested_by_username"
  let approvalCount := request.getD "approval_count" (.int 0)
  let required := approvalRequired approval
  let updatedAt ← request.item "updated_at"
  return ⟨requestId, title, status, risk, environment, requestedBy, approvalCount, required,
    updatedAt⟩

def summarizePlans (changeRequests approvals : List PresentationRow) (limit : Int) :
    Except Raised PlanSummary := do
  let index ← indexed approvals
  let items ← (firstRows limit changeRequests).mapM fun request => do
    let approval ← presentedApproval index approvals request
    planItem request approval
  return ⟨items, approvals.length⟩

def summarizePlansByScan (changeRequests approvals : List PresentationRow) (limit : Int) :
    Except Raised PlanSummary := do
  let items ← (firstRows limit changeRequests).mapM fun request => do
    let approval ← scanned request approvals
    planItem request approval
  return ⟨items, approvals.length⟩

/-- The approvals, each under what its request is compared by. -/
def Keys (keyed : ApprovalIndex) (approvals : List PresentationRow) : Prop :=
  keyed.map Prod.snd = approvals ∧ ∀ entry ∈ keyed, ∃ requestId,
    entry.2.item "request_id" = .ok requestId ∧ requestId.scalar? = some entry.1

variable {approvals : List PresentationRow}

theorem fillIndex_eq_ok {start index : ApprovalIndex}
    (filled : fillIndex start approvals = .ok index) :
    ∃ keyed, Keys keyed approvals ∧
      index = keyed.foldl (fun index entry => FirstMatch.setDefault index entry.1 entry.2)
        start := by
  induction approvals generalizing start with
  | nil =>
      obtain rfl := Except.ok.inj filled
      exact ⟨[], ⟨rfl, List.forall_mem_nil _⟩, rfl⟩
  | cons approval approvals ih =>
      simp only [fillIndex, hashed, bind_eq_ok, orRaise_eq_ok] at filled
      obtain ⟨requestId, read, key, scalar, rest⟩ := filled
      obtain ⟨keyed, ⟨rows, keys⟩, rfl⟩ := ih rest
      refine ⟨(key, approval) :: keyed, ⟨by rw [List.map_cons, rows], ?_⟩, rfl⟩
      exact List.forall_mem_cons.mpr ⟨⟨requestId, read, scalar⟩, keys⟩

/-- A scan for a hashable id finds the row that is listed first under it. -/
theorem scanned_of_scalar {request : PresentationRow} {id : RowValue} {wanted : Scalar}
    (read : request.item "id" = .ok id) (scalar : id.scalar? = some wanted) {keyed : ApprovalIndex}
    (keys : Keys keyed approvals) :
    scanned request approvals = .ok (keyed.lookup wanted) := by
  obtain ⟨rfl, keys⟩ := keys
  induction keyed with
  | nil => rfl
  | cons entry keyed ih =>
      obtain ⟨⟨requestId, there, key⟩, rest⟩ := List.forall_mem_cons.mp keys
      rw [List.map_cons, scanned, there, ok_bind, read, ok_bind,
        RowValue.equals_of_scalar key scalar, FirstMatch.lookup_cons, ih rest]
      by_cases same : wanted = entry.1
      · rw [if_pos (beq_iff_eq.mpr same.symm), if_pos same]
      · rw [if_neg (fun equal => same (beq_iff_eq.mp equal).symm), if_neg same]

/-- What goes wrong while the index is filled is a missing or an unhashable id. -/
theorem fillIndex_eq_error {start : ApprovalIndex} {error : Raised}
    (failed : fillIndex start approvals = .error error) :
    error.cls = .keyError ∨ error.cls = .typeError := by
  induction approvals generalizing start with
  | nil => cases failed
  | cons approval approvals ih =>
      rw [fillIndex] at failed
      cases read : approval.item "request_id" with
      | error missing =>
          rw [read] at failed
          obtain rfl := Except.error.inj failed
          rw [PresentationRow.item] at read
          cases found : approval.lookup "request_id" with
          | none =>
              rw [found] at read
              exact .inl (Except.error.inj read ▸ rfl)
          | some value =>
              rw [found] at read
              cases read
      | ok requestId =>
          rw [read, ok_bind] at failed
          cases scalar : requestId.scalar? with
          | none =>
              rw [hashed, scalar] at failed
              exact .inr (Except.error.inj failed ▸ rfl)
          | some key =>
              rw [hashed, scalar, orRaise, ok_bind] at failed
              exact ih failed

theorem indexed_eq_ok (approvals : List PresentationRow) : ∃ index, indexed approvals = .ok index ∧
    ∀ entries, index = some entries → fillIndex [] approvals = .ok entries := by
  cases filled : fillIndex [] approvals with
  | ok entries =>
      refine ⟨some entries, by rw [indexed, filled], ?_⟩
      rintro _ ⟨⟩
      rfl
  | error error =>
      have caught : [ExceptionClass.keyError, .typeError].any error.cls.isA = true := by
        obtain isKey | isType := fillIndex_eq_error filled
        · rw [isKey]
          decide
        · rw [isType]
          decide
      refine ⟨none, ?_, ?_⟩
      · rw [indexed, filled]
        exact if_pos caught
      · intro entries same
        cases same

/-- The item of a request is the same whether its approval is looked up or scanned for. -/
theorem item_agrees {index : Option ApprovalIndex}
    (filled : ∀ entries, index = some entries → fillIndex [] approvals = .ok entries)
    (request : PresentationRow) :
    (do
      let approval ← presentedApproval index approvals request
      planItem request approval) =
    (do
      let approval ← scanned request approvals
      planItem request approval) := by
  cases index with
  | none => rfl
  | some entries =>
      obtain ⟨keyed, keys, rfl⟩ := fillIndex_eq_ok (filled entries rfl)
      cases read : request.item "id" with
      | ok id =>
          cases scalar : id.scalar? with
          | none => simp only [presentedApproval, read, ok_bind, scalar]
          | some wanted =>
              have found := FirstMatch.lookup_indexOf keyed wanted
              rw [FirstMatch.indexOf] at found
              simp only [presentedApproval, read, ok_bind, scalar,
                scanned_of_scalar read scalar keys, found]
      | error missing =>
          have noItem (approval : Option PresentationRow) :
              planItem request approval = .error missing := by
            rw [planItem, read]
            rfl
          rw [presentedApproval, read]
          -- without an id the scan fails at its first row, or the item does
          obtain ⟨rows, keys⟩ := keys
          cases keyed with
          | nil =>
              obtain rfl := rows
              exact (noItem none).symm
          | cons entry keyed =>
              obtain rfl := rows
              obtain ⟨⟨requestId, there, -⟩, -⟩ := List.forall_mem_cons.mp keys
              rw [List.map_cons, scanned, there, ok_bind, read]
              rfl

/-- The summary with an index is the summary by a plain scan, also where it raises. -/
theorem summarizePlans_eq_scan (changeRequests approvals : List PresentationRow) (limit : Int) :
    summarizePlans changeRequests approvals limit =
      summarizePlansByScan changeRequests approvals limit := by
  obtain ⟨index, isIndex, filled⟩ := indexed_eq_ok approvals
  rw [summarizePlans, summarizePlansByScan, isIndex, ok_bind]
  simp only [item_agrees filled]

end VoodooOne
