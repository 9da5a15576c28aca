import Mathlib.Data.List.Nodup
import Mathlib.Data.List.Perm.Basic
import Mathlib.Order.Nat

/-!
# Linked records

Each record of a table names the key of the record before it.  The records form one chain when no
two
of them name one key, each of them names the start or another record, and none comes before itself.
Then they have one order.
-/

namespace LinkedRecords

variable {α κ : Type*} [DecidableEq κ] (previous own : α → κ)

def successors (records : List α) (key : κ) : List α := records.filter fun record =>
    previous record = key

/-- From a key on, each record is the only one that names the key before it, up to a key that no
record names. -/
def Follows (records : List α) : κ → List α → Prop
  | key, [] => successors previous records key = []
  | key, record :: order =>
      successors previous records key = [record] ∧ Follows records (own record) order

/-- The records form at most one chain from a key on. -/
structure OneChain (records : List α) (start : κ) : Prop where
  unshared : (records.map previous).Nodup
  linked : ∀ record ∈ records, previous record = start ∨
    ∃ other ∈ records, own other = previous record
  acyclic : ∃ rank : α → Nat, ∀ record ∈ records, ∀ other ∈ records,
    own other = previous record → rank other < rank record

variable {previous own} {records order : List α} {key start : κ} {record next : α}

@[simp] theorem mem_successors :
    record ∈ successors previous records key ↔ record ∈ records ∧ previous record = key := by
  simp [successors]

namespace Follows

theorem mem (follows : Follows previous own records key order) :
    ∀ record ∈ order, record ∈ records ∧ successors previous records (previous record) =
      [record] := by
  induction order generalizing key with
  | nil => exact List.forall_mem_nil _
  | cons first order induction =>
      obtain ⟨only, later⟩ := follows
      have here : first ∈ successors previous records key := only ▸ List.mem_singleton_self first
      obtain ⟨stored, rfl⟩ := mem_successors.mp here
      exact List.forall_mem_cons.mpr ⟨⟨stored, only⟩, induction later⟩

theorem first (follows : Follows previous own records key order) (stored : next ∈ records)
    (named : previous next = key) : ∃ later, order = next :: later := by
  have found : next ∈ successors previous records key := mem_successors.mpr ⟨stored, named⟩
  cases order with
  | nil => exact absurd (follows ▸ found : next ∈ []) List.not_mem_nil
  | cons first order =>
      rw [follows.1, List.mem_singleton] at found
      exact ⟨order, by rw [found]⟩

theorem tail {front back : List α}
    (follows : Follows previous own records key (front ++ record :: back)) :
    Follows previous own records (own record) back := by
  induction front generalizing key with
  | nil => exact follows.2
  | cons first front induction => exact induction follows.2

theorem after {front back : List α}
    (follows : Follows previous own records key (front ++ record :: back)) (stored : next ∈ records)
    (named : previous next = own record) : ∃ later, back = next :: later :=
  follows.tail.first stored named

theorem linked (follows : Follows previous own records key order) :
    ∀ record ∈ order, previous record = key ∨ ∃ other ∈ order, own other = previous record := by
  induction order generalizing key with
  | nil => exact List.forall_mem_nil _
  | cons first order induction =>
      obtain ⟨only, later⟩ := follows
      have here : first ∈ successors previous records key := only ▸ List.mem_singleton_self first
      refine List.forall_mem_cons.mpr ⟨.inl (mem_successors.mp here).2, fun record member => ?_⟩
      rcases induction later record member with named | ⟨other, stored, same⟩
      · exact .inr ⟨first, List.mem_cons_self .., named.symm⟩
      · exact .inr ⟨other, List.mem_cons_of_mem _ stored, same⟩

end Follows

theorem OneChain.of_follows (distinct : (records.map own).Nodup)
    (follows : Follows previous own records start order) (perm : order.Perm records) :
    OneChain previous own records start where
  unshared := by
    rw [List.nodup_iff_count_le_one]
    intro key
    rw [List.count, List.countP_map, List.countP_eq_length_filter]
    by_cases named : ∃ record ∈ records, previous record = key
    · obtain ⟨record, stored, rfl⟩ := named
      have only := (follows.mem record (perm.mem_iff.mpr stored)).2
      exact (congrArg List.length only).le
    · have none : records.filter (fun record => previous record == key) = [] := by
        refine List.filter_eq_nil_iff.mpr fun record stored same => ?_
        exact named ⟨record, stored, beq_iff_eq.mp same⟩
      exact (congrArg List.length none).le.trans (Nat.zero_le 1)
  linked record stored := by
    refine (follows.linked record (perm.mem_iff.mpr stored)).imp_right fun found => ?_
    obtain ⟨other, there, same⟩ := found
    exact ⟨other, perm.mem_iff.mp there, same⟩
  acyclic := by
    have keys : (order.map own).Nodup := (perm.map own).nodup_iff.mpr distinct
    refine ⟨fun record => (order.map own).idxOf (own record), ?_⟩
    intro record stored other there named
    obtain ⟨front, back, rfl⟩ := List.append_of_mem (perm.mem_iff.mpr there)
    obtain ⟨later, rfl⟩ := follows.after stored named.symm
    have place (front back : List α) (record : α)
        (keys : ((front ++ record :: back).map own).Nodup) :
        ((front ++ record :: back).map own).idxOf (own record) = front.length := by
      rw [List.map_append, List.map_cons] at keys ⊢
      have absent : own record ∉ front.map own := fun member =>
        (List.nodup_append.mp keys).2.2 _ member _ (List.mem_cons_self ..) rfl
      rw [List.idxOf_append_of_notMem absent, List.idxOf_cons_self, List.length_map, Nat.add_zero]
    have shifted : front ++ other :: record :: later = (front ++ [other]) ++ record :: later := by
      rw [List.append_assoc]
      rfl
    calc ((front ++ other :: record :: later).map own).idxOf (own other)
        = front.length := place _ _ _ keys
      _ < (front ++ [other]).length := by rw [List.length_append]; exact Nat.lt_succ_self _
      _ = ((front ++ other :: record :: later).map own).idxOf (own record) := by
        rw [shifted] at keys ⊢
        exact (place _ _ _ keys).symm

namespace OneChain

theorem successors_of_mem (chain : OneChain previous own records start)
    (stored : record ∈ records) : successors previous records (previous record) = [record] := by
  have counted := List.nodup_iff_count_le_one.mp chain.unshared (previous record)
  rw [List.count, List.countP_map, List.countP_eq_length_filter] at counted
  have found : record ∈ successors previous records (previous record) :=
    mem_successors.mpr ⟨stored, rfl⟩
  have single : (successors previous records (previous record)).length ≤ 1 := counted
  obtain ⟨other, only⟩ := List.length_eq_one_iff.mp
    (le_antisymm single (List.length_pos_of_mem found))
  rw [only, List.mem_singleton] at found
  rw [only, found]

theorem exists_bound (rank : α → Nat) (records : List α) :
    ∃ bound, ∀ record ∈ records, rank record < bound := by
  induction records with
  | nil => exact ⟨0, List.forall_mem_nil _⟩
  | cons record records induction =>
      obtain ⟨bound, below⟩ := induction
      refine ⟨max (rank record + 1) bound, List.forall_mem_cons.mpr ⟨?_, fun other stored => ?_⟩⟩
      · exact Nat.le_max_left _ _
      · exact (below other stored).trans_le (Nat.le_max_right _ _)

theorem exists_follows (chain : OneChain previous own records start) (key : κ) :
    ∃ order, Follows previous own records key order := by
  obtain ⟨rank, ascends⟩ := chain.acyclic
  obtain ⟨bound, below⟩ := exists_bound rank records
  -- each step goes to a higher rank
  have steps (left : Nat) : ∀ key, (∀ record ∈ records, previous record = key →
      bound - rank record ≤ left) → ∃ order, Follows previous own records key order := by
    induction left with
    | zero =>
        intro key within
        refine ⟨[], List.filter_eq_nil_iff.mpr fun record stored named => ?_⟩
        have room := within record stored (of_decide_eq_true named)
        have less := below record stored
        omega
    | succ left induction =>
        intro key within
        by_cases named : ∃ record ∈ records, previous record = key
        · obtain ⟨record, stored, rfl⟩ := named
          obtain ⟨order, follows⟩ := induction (own record) fun next there same => by
            have up := ascends next there record stored same.symm
            have room := within record stored rfl
            have less := below next there
            omega
          exact ⟨record :: order, chain.successors_of_mem stored, follows⟩
        · refine ⟨[], List.filter_eq_nil_iff.mpr fun record stored same => ?_⟩
          exact named ⟨record, stored, of_decide_eq_true same⟩
  exact steps bound key fun record _ _ => Nat.sub_le _ _

theorem perm_of_follows (chain : OneChain previous own records start)
    (distinct : records.Nodup) (follows : Follows previous own records start order) :
    order.Perm records := by
  obtain ⟨rank, ascends⟩ := chain.acyclic
  have ascending (key : κ) (order : List α) (follows : Follows previous own records key order) :
      order.Pairwise fun left right => rank left < rank right := by
    induction order generalizing key with
    | nil => exact List.Pairwise.nil
    | cons first order induction =>
        have later := induction _ follows.2
        refine List.pairwise_cons.mpr ⟨?_, later⟩
        cases order with
        | nil => exact List.forall_mem_nil _
        | cons second order =>
            have here : second ∈ successors previous records (own first) :=
              follows.2.1 ▸ List.mem_singleton_self second
            obtain ⟨there, named⟩ := mem_successors.mp here
            have up := ascends second there first (follows.mem first (List.mem_cons_self ..)).1
              named.symm
            refine List.forall_mem_cons.mpr ⟨up, fun record member => up.trans ?_⟩
            exact (List.pairwise_cons.mp later).1 record member
  have ordered : order.Nodup := by
    refine (ascending start order follows).imp ?_
    rintro left right less rfl
    exact absurd less (lt_irrefl _)
  refine (List.perm_ext_iff_of_nodup ordered distinct).mpr fun record => ?_
  refine ⟨fun member => (follows.mem record member).1, fun stored => ?_⟩
  -- a record that names no record of the order names none at all
  induction rising : rank record using Nat.strongRecOn generalizing record with
  | ind height induction =>
      rcases chain.linked record stored with named | ⟨other, there, same⟩
      · obtain ⟨later, rfl⟩ := follows.first stored named
        exact List.mem_cons_self ..
      · have known := induction _ (rising ▸ ascends record stored other there same) other there rfl
        obtain ⟨front, back, rfl⟩ := List.append_of_mem known
        obtain ⟨later, rfl⟩ := follows.after stored same.symm
        simp

end OneChain

/-- Records with distinct keys are one chain exactly when all of them can be put in an order. -/
theorem oneChain_iff (distinct : (records.map own).Nodup) : OneChain previous own records start ↔
      ∃ order, Follows previous own records start order ∧ order.Perm records := by
  constructor
  · intro chain
    obtain ⟨order, follows⟩ := chain.exists_follows start
    exact ⟨order, follows, chain.perm_of_follows (List.Nodup.of_map own distinct) follows⟩
  · rintro ⟨order, follows, perm⟩
    exact .of_follows distinct follows perm

end LinkedRecords
